import IPv6Suite.TCPHandshake

namespace IPv6Suite

open Lib TCPConnection

/-- What may be told to the application after `front`. -/
def MayFollow (front : List TCPIndication) : TCPIndication → Prop
  | .established => .established ∉ front
  | .data _ | .peerClosed => .established ∈ front ∧ .peerClosed ∉ front
  | _ => True

/-- The connection has not ended yet. -/
def Unended (told : List TCPIndication) : Prop := ∀ code ∈ told, terminal code = false

/-- The order that the application relies on: ESTABLISHED once, before data and PEER_CLOSED,
PEER_CLOSED once, after the data, and nothing after the connection has ended. -/
def InOrder (told : List TCPIndication) : Prop :=
  ∀ front code back, told = front ++ code :: back → Unended front ∧ MayFollow front code

variable {told : List TCPIndication}

theorem InOrder.concat {code : TCPIndication} (ordered : InOrder told) (unended : Unended told)
    (follows : MayFollow told code) : InOrder (told ++ [code]) := by
  intro front code' back split
  rcases List.eq_nil_or_concat back with rfl | ⟨rest, last, rfl⟩
  · obtain ⟨rfl, same⟩ := List.append_inj' split rfl
    cases same
    exact ⟨unended, follows⟩
  · rw [List.concat_eq_append, ← List.cons_append, ← List.append_assoc] at split
    exact ordered front code' rest (List.append_inj' split rfl).1

theorem Unended.concat {code : TCPIndication} (unended : Unended told)
    (goesOn : terminal code = false) : Unended (told ++ [code]) := by
  intro old mem
  rcases List.mem_append.mp mem with mem | mem
  · exact unended old mem
  · rw [List.mem_singleton.mp mem]
    exact goesOn

theorem InOrder.append_data (ordered : InOrder told) (unended : Unended told)
    {msgs : List CMessage} (follows : msgs ≠ [] → .established ∈ told ∧ .peerClosed ∉ told) :
    InOrder (told ++ msgs.map .data) ∧ Unended (told ++ msgs.map .data) := by
  induction msgs generalizing told with
  | nil =>
      rw [List.map_nil, List.append_nil]
      exact ⟨ordered, unended⟩
  | cons msg rest ih =>
      obtain ⟨open', before⟩ := follows nofun
      rw [List.map_cons, ← List.singleton_append, ← List.append_assoc]
      refine ih (ordered.concat unended ⟨open', before⟩) (unended.concat rfl) fun _ => ?_
      refine ⟨List.mem_append_left _ open', fun mem => ?_⟩
      rcases List.mem_append.mp mem with mem | mem
      · exact before mem
      · cases List.mem_singleton.mp mem

theorem peerClosed_mem_append {msgs : List CMessage} :
    .peerClosed ∈ told ++ msgs.map .data ↔ .peerClosed ∈ told := by
  rw [List.mem_append, List.mem_map]
  constructor
  · rintro (mem | ⟨msg, -, other⟩)
    · exact mem
    · cases other
  · exact Or.inl

namespace TCPConnection

variable {c c' : TCPConnection} {tcpseg : TCPSegment}

def BringsText (c : TCPConnection) (tcpseg : TCPSegment) : Prop :=
  takesText c.fsm = true ∧ 0 < tcpseg.payloadLength ∧ (c.receiveBytes tcpseg).rcvNxt ≠ c.rcvNxt

/-- The FIN is the next that is expected. -/
def BringsFin (c : TCPConnection) (tcpseg : TCPSegment) : Prop :=
  tcpseg.finBit = true ∧
    c.rcvNxt = tcpseg.sequenceNo + BitVec.ofNat 32 tcpseg.payloadLength

theorem processText_tells (c : TCPConnection) (tcpseg : TCPSegment)
    (before : takesText c.fsm = true → c.finRcvd = false) : OnReturn
    (fun c' => c'.finRcvd = c.finRcvd ∧ ∃ msgs : List CMessage, c'.toAppl = c.toAppl ++ msgs.map .data ∧
        (c.BringsText tcpseg ∨ msgs = [] ∧ c'.rcvNxt = c.rcvNxt)) (c.processText tcpseg) := by
  unfold processText
  refine Ensures.ite (fun takes => ?_) fun _ => ?_
  · refine Ensures.ite (fun stays => ?_) fun moves => ?_
    · exact ⟨rfl, [], (List.append_nil _).symm, Or.inr ⟨rfl, stays.symm⟩⟩
    · refine Ensures.bind Ensures.trivial fun extracted _ => ?_
      rw [Ensures.pure_iff]
      rw [if_neg (fun fin => Bool.noConfusion ((before takes.1).symm.trans fin.1))]
      exact ⟨rfl, extracted.1, rfl, Or.inl ⟨takes.1, takes.2, Ne.symm moves⟩⟩
  · exact ⟨rfl, [], (List.append_nil _).symm, Or.inr ⟨rfl, rfl⟩⟩

structure TellsText (c : TCPConnection) (tcpseg : TCPSegment) (c' : TCPConnection) : Prop where
  finRcvd : tcpseg.finBit = false → c'.finRcvd = c.finRcvd
  told : ∃ msgs : List CMessage, (msgs ≠ [] → c.BringsText tcpseg) ∧
    (c'.toAppl = c.toAppl ++ msgs.map .data ∨
      tcpseg.finBit = true ∧ (c.BringsText tcpseg ∨ c.BringsFin tcpseg) ∧
        c'.toAppl = c.toAppl ++ msgs.map .data ++ [.peerClosed])

theorem finEvent_silent (c : TCPConnection) : OnReturn
    (fun r => r.2.toAppl = c.toAppl ∧ r.2.finRcvd = c.finRcvd) c.finEvent := by
  refine OnReturn.of_ensures (c.finEvent_returns.imp ?_)
  rintro r ⟨-, _, _, same⟩
  rw [same]
  exact ⟨rfl, rfl⟩

theorem acknowledge_silent (c : TCPConnection) (oldRcvNxt : BitVec 32) :
    (c.acknowledge oldRcvNxt).toAppl = c.toAppl ∧ (c.acknowledge oldRcvNxt).finRcvd = c.finRcvd := by
  unfold acknowledge TCPBaseAlg.receiveSeqChanged
  split
  · split <;> exact ⟨rfl, rfl⟩
  · exact ⟨rfl, rfl⟩

theorem processTextAndFin_tells (c : TCPConnection) (tcpseg : TCPSegment) (event : TCPEventCode)
    (oldSndNxt : BitVec 32) (before : takesText c.fsm = true → c.finRcvd = false) : OnReturn
    (fun r => TellsText c tcpseg r.2) (c.processTextAndFin tcpseg event oldSndNxt) := by
  unfold processTextAndFin
  refine Ensures.bind (c.processText_tells tcpseg before) ?_
  rintro c₁ ⟨finRcvd, msgs, told, brings⟩
  have some (new : msgs ≠ []) : c.BringsText tcpseg := brings.resolve_right fun none => new none.1
  have fin : OnReturn (fun r => TellsText c tcpseg r.2) (c₁.processFin tcpseg event) := by
    unfold processFin
    refine Ensures.ite (fun fin => ?_) fun _ => ⟨fun _ => finRcvd, msgs, some, Or.inl told⟩
    refine (c₁.receiveFin tcpseg).finEvent_silent.imp ?_
    rintro r ⟨silent, -⟩
    refine ⟨fun plain => Bool.noConfusion (plain.symm.trans fin), msgs, some, ?_⟩
    rw [silent]
    unfold receiveFin
    dsimp only
    split
    · rename_i inSequence
      refine Or.inr ⟨fin, brings.imp_right fun none => ⟨fin, none.2.symm.trans inSequence⟩, ?_⟩
      exact congrArg (· ++ [.peerClosed]) told
    · exact Or.inl told
  refine Ensures.bind fin ?_
  rintro ⟨event', c₂⟩ tells
  obtain ⟨silent, same⟩ := c₂.acknowledge_silent c.rcvNxt
  refine ⟨fun plain => same.trans (tells.finRcvd plain), ?_⟩
  dsimp only
  rw [silent]
  exact tells.told

def AckCheck.Tells (c : TCPConnection) : AckCheck → Prop
  | .drop event c' => c.Tells c' (c'.nextState event)
  | .proceed _ c' => c'.toAppl = c.toAppl

theorem processAck_tells (c : TCPConnection) (tcpseg : TCPSegment) : OnReturn
    (AckCheck.Tells c) (c.processAck tcpseg) := by
  have acks (c : TCPConnection) : OnReturn (fun r => r.2.toAppl = c.toAppl)
      (c.processAckInEstabEtc tcpseg) :=
    OnReturn.of_ensures ((c.processAckInEstabEtc_acked tcpseg).imp fun _ acked => acked.toAppl)
  have outcome {r : Bool × TCPConnection} {event : TCPEventCode} (silent : r.2.toAppl = c.toAppl) :
      OnReturn (AckCheck.Tells c)
        (pure (if r.1 = true then .proceed event r.2 else .drop .ignore r.2) : TCPExec AckCheck) := by
    refine Ensures.ok ?_
    split
    · exact silent
    · exact Or.inl silent
  unfold processAck
  split
  · refine Ensures.ite (fun _ => Or.inl rfl) fun _ => ?_
    refine Ensures.bind (OnReturn.of_ensures (TCPBaseAlg.established_silent c false)) fun c₁ first => ?_
    exact Ensures.bind (acks c₁) fun r silent => outcome (silent.trans first)
  iterate 4 exact Ensures.bind (acks c) fun r silent => outcome silent
  · refine Ensures.bind (acks c) fun r silent => ?_
    refine Ensures.ite (fun _ => ?_) fun _ => Or.inl silent
    refine Ensures.ite (fun _ => ?_) fun _ => silent
    exact Ensures.bind Ensures.trivial fun _ _ => silent
  · rename_i fsm
    refine Ensures.ok ?_
    split
    · exact Or.inr (Or.inr ⟨nextState_eq fsm _, .closed, rfl, rfl⟩)
    · exact rfl
  iterate 5 exact rfl

/-- What has been told in each state, and that no FIN is remembered while text is taken. -/
structure Telling (fsm : TcpState) (c : TCPConnection) : Prop where
  ordered : InOrder c.toAppl
  unended : fsm ≠ .closed → Unended c.toAppl
  early : opening fsm = true → ∀ code ∈ c.toAppl, code = .status
  text : takesText fsm = true → .peerClosed ∉ c.toAppl
  finRcvd : opening fsm = true ∨ takesText fsm = true → c.finRcvd = false

/-- What has been told when a connection in `fsm` is about to go to `next`. -/
structure Told (fsm next : TcpState) (c : TCPConnection) : Prop where
  ordered : InOrder c.toAppl
  unended : next ≠ .closed → Unended c.toAppl
  early : opening fsm = true → next ≠ .closed → ∀ code ∈ c.toAppl, code = .status
  text : takesText next = true → .peerClosed ∉ c.toAppl
  finRcvd : opening next = true ∨ takesText next = true → c.finRcvd = false

variable {event : TCPEventCode}

theorem text_nextState (takes : takesText (c.nextState event) = true) :
    opening c.fsm = true ∨ takesText c.fsm = true := by
  unfold nextState at takes
  generalize c.fsm = fsm, c.active = active at takes ⊢
  cases fsm
  case init | listen | synSent | synRcvd => exact Or.inl rfl
  case established | finWait1 | finWait2 => exact Or.inr rfl
  all_goals cases event <;> cases takes

theorem opening_of_nextState (early : opening (c.nextState event) = true) : opening c.fsm = true := by
  by_contra past
  have later := opening_nextState (Bool.eq_false_iff.mpr past) event
  cases later.symm.trans early

theorem before_nextState (before : opening (c.nextState event) = true ∨ takesText (c.nextState event) = true) :
    opening c.fsm = true ∨ takesText c.fsm = true :=
  before.elim (fun early => Or.inl (opening_of_nextState early)) text_nextState

theorem Telling.peerClosed {fsm : TcpState} (telling : Telling fsm c)
    (before : opening fsm = true ∨ takesText fsm = true) : .peerClosed ∉ c.toAppl := by
  rcases before with early | takes
  · exact fun mem => nomatch telling.early early _ mem
  · exact telling.text takes

theorem Telling.tells (telling : Telling c.fsm c) (alive : c.fsm ≠ .closed)
    (fsm : c'.fsm = c.fsm) (finRcvd : c'.finRcvd = c.finRcvd)
    (told : c.Tells c' (c'.nextState event)) : Told c.fsm (c'.nextState event) c' := by
  have unended := telling.unended alive
  have before (next : opening (c'.nextState event) = true ∨ takesText (c'.nextState event) = true) :
      opening c.fsm = true ∨ takesText c.fsm = true := by
    rw [← fsm]
    exact before_nextState next
  have flag (next : opening (c'.nextState event) = true ∨ takesText (c'.nextState event) = true) :
      c'.finRcvd = false := finRcvd.trans (telling.finRcvd (before next))
  rcases told with same | status | ⟨closes, code, ends, told⟩
  · rw [← same] at unended
    refine ⟨same ▸ telling.ordered, fun _ => unended, fun early _ => ?_, fun takes => ?_, flag⟩
    · rw [same]
      exact telling.early early
    · rw [same]
      exact telling.peerClosed (before (Or.inr takes))
  · refine ⟨?_, fun _ => ?_, fun early _ code mem => ?_, fun takes mem => ?_, flag⟩
    · rw [status]
      exact telling.ordered.concat unended True.intro
    · rw [status]
      exact unended.concat rfl
    · rw [status] at mem
      rcases List.mem_append.mp mem with mem | mem
      · exact telling.early early code mem
      · exact List.mem_singleton.mp mem
    · rw [status] at mem
      rcases List.mem_append.mp mem with mem | mem
      · exact telling.peerClosed (before (Or.inr takes)) mem
      · cases List.mem_singleton.mp mem
  · rw [closes]
    refine ⟨?_, fun open' => absurd rfl open', fun _ open' => absurd rfl open', nofun, nofun⟩
    rw [told]
    refine telling.ordered.concat unended ?_
    cases code <;> first | (cases ends; done) | exact True.intro

/-- The states in which segments go through the eight checks -/
def checksSegment : TcpState → Bool
  | .init | .closed | .listen | .synSent => false
  | _ => true

/-- The segment gets to the checks of its text and its FIN. -/
def ReachesText (c : TCPConnection) (tcpseg : TCPSegment) : Prop :=
  checksSegment c.fsm = true ∧ c.Passes tcpseg ∧
    ∃ event c', c.processAck tcpseg = .ok (.proceed event c')

/-- Text and FIN are taken after ESTABLISHED has been told, and one FIN only. -/
def TellsInTurn (c : TCPConnection) : TCPInput → Prop
  | .segment tcpseg => c.ReachesText tcpseg →
      (c.BringsText tcpseg → .established ∈ c.toAppl) ∧
        (c.BringsFin tcpseg → .established ∈ c.toAppl ∧ .peerClosed ∉ c.toAppl)
  | _ => True

theorem fin_nextState (checks : checksSegment c.fsm = true)
    (events : event = .close ∧ c.fsm = .closeWait ∨ event = .rcvFin ∨ event = .rcvFinAck ∧ c.fsm = .finWait1) :
    ¬ (opening (c.nextState event) = true ∨ takesText (c.nextState event) = true) := by
  unfold nextState
  generalize c.fsm = fsm, c.active = active at checks events ⊢
  rcases events with ⟨rfl, rfl⟩ | rfl | ⟨rfl, rfl⟩
  · cases active <;> decide
  · cases fsm <;> first | (cases checks; done) | cases active <;> decide
  · cases active <;> decide

theorem BringsText.of_same (same : c'.exceptAcks = c.exceptAcks) (brings : c'.BringsText tcpseg) :
    c.BringsText tcpseg := by
  have fsm : c'.fsm = c.fsm := (congrArg TCPConnection.fsm same :)
  have queue : c'.receiveQueue = c.receiveQueue := (congrArg receiveQueue same :)
  have next : c'.rcvNxt = c.rcvNxt := (congrArg rcvNxt same :)
  unfold BringsText receiveBytes at *
  rw [fsm, queue, next] at brings
  exact brings

theorem BringsFin.of_same (same : c'.exceptAcks = c.exceptAcks) (brings : c'.BringsFin tcpseg) :
    c.BringsFin tcpseg := by
  have next : c'.rcvNxt = c.rcvNxt := (congrArg rcvNxt same :)
  unfold BringsFin at *
  rw [next] at brings
  exact brings

variable {r : TCPEventCode × TCPConnection}

theorem proceeds_told (telling : Telling c.fsm c) (checks : checksSegment c.fsm = true) (passes : c.Passes tcpseg)
    (inTurn : c.TellsInTurn (.segment tcpseg)) (checked : c.processAck tcpseg = .ok (.proceed event c'))
    (processed : c'.processTextAndFin tcpseg event c.sndNxt = .ok r) : Told c.fsm (r.2.nextState r.1) r.2 := by
  have alive : c.fsm ≠ .closed := fun closed => by
    rw [closed] at checks
    cases checks
  have same := (c.processAck_same tcpseg).of_ok checked
  have silent : c'.toAppl = c.toAppl := (c.processAck_tells tcpseg).of_ok checked
  have fsm₁ : c'.fsm = c.fsm := (congrArg TCPConnection.fsm same :)
  have flag : c'.finRcvd = c.finRcvd := (congrArg TCPConnection.finRcvd same :)
  have before (takes : takesText c'.fsm = true) : c'.finRcvd = false := by
    rw [fsm₁] at takes
    exact flag.trans (telling.finRcvd (Or.inr takes))
  obtain ⟨text, events⟩ := (c'.processTextAndFin_returns tcpseg event c.sndNxt).of_ok processed
  obtain ⟨finRcvd, msgs, some, told⟩ := (c'.processTextAndFin_tells tcpseg event c.sndNxt before).of_ok
    processed
  have fsm₂ : r.2.fsm = c.fsm := (congrArg TCPConnection.fsm text :).trans fsm₁
  obtain ⟨data, fin⟩ := inTurn ⟨checks, passes, event, c', checked⟩
  have text' (brings : c'.BringsText tcpseg) :
      .established ∈ c.toAppl ∧ .peerClosed ∉ c.toAppl := by
    have own := BringsText.of_same same brings
    exact ⟨data own, telling.text own.1⟩
  have unended := telling.unended alive
  obtain ⟨ordered', unended'⟩ := telling.ordered.append_data unended fun new => text' (some new)
  have plain (later : opening (r.2.nextState r.1) = true ∨ takesText (r.2.nextState r.1) = true) :
      tcpseg.finBit = false := by
    by_contra fin
    have fin' := Bool.eq_true_of_not_eq_false fin
    refine fin_nextState (fsm₂.symm ▸ checks) ?_ later
    rw [fsm₂]
    rw [fsm₁] at events
    rcases events with closes | ⟨-, plain⟩ | ⟨event, -⟩ | ⟨event, -, waits⟩
    · exact Or.inl closes
    · exact absurd plain fin
    · exact Or.inr (Or.inl event)
    · exact Or.inr (Or.inr ⟨event, waits⟩)
  have earlier (later : opening (r.2.nextState r.1) = true ∨ takesText (r.2.nextState r.1) = true) :
      opening c.fsm = true ∨ takesText c.fsm = true := by
    rw [← fsm₂]
    exact before_nextState later
  have flag' (later : opening (r.2.nextState r.1) = true ∨ takesText (r.2.nextState r.1) = true) :
      r.2.finRcvd = false :=
    (finRcvd (plain later)).trans (flag.trans (telling.finRcvd (earlier later)))
  rcases told with told | ⟨fin', brings, told⟩
  · rw [silent] at told
    refine ⟨told ▸ ordered', fun _ => told ▸ unended', fun early _ code mem => ?_, fun takes => ?_,
      flag'⟩
    · rw [told] at mem
      rcases List.mem_append.mp mem with mem | mem
      · exact telling.early early code mem
      · have new : msgs ≠ [] := fun none => by
          rw [none] at mem
          cases mem
        exact absurd (telling.early early _ (text' (some new)).1) nofun
    · rw [told, peerClosed_mem_append]
      exact telling.peerClosed (earlier (Or.inr takes))
  · have follows : .established ∈ c.toAppl ∧ .peerClosed ∉ c.toAppl :=
      brings.elim text' fun brings => fin (brings.of_same same)
    rw [silent] at told
    have never (later : opening (r.2.nextState r.1) = true ∨ takesText (r.2.nextState r.1) = true)
        {p : Prop} : p := Bool.noConfusion (fin'.symm.trans (plain later))
    refine ⟨?_, fun _ => ?_, fun early _ => ?_, fun takes => never (Or.inr takes), fun later =>
      never later⟩
    · rw [told]
      refine ordered'.concat unended' ⟨List.mem_append_left _ follows.1, ?_⟩
      rw [peerClosed_mem_append]
      exact follows.2
    · rw [told]
      exact unended'.concat rfl
    · exact absurd (telling.early early _ follows.1) nofun

theorem SegmentReaction.tells (reaction : c.SegmentReaction tcpseg r) (telling : Telling c.fsm c)
    (checks : checksSegment c.fsm = true) (inTurn : c.TellsInTurn (.segment tcpseg)) :
    Told c.fsm (r.2.nextState r.1) r.2 := by
  have past : c.fsm = .synRcvd ∨ opening c.fsm = false := by
    cases fsm : c.fsm
    case synRcvd => exact Or.inl rfl
    case init | listen | synSent =>
      rw [fsm] at checks
      cases checks
    all_goals exact Or.inr rfl
  have alive : c.fsm ≠ .closed := fun closed => by
    rw [closed] at checks
    cases checks
  cases reaction with
  | refused same _ told =>
      exact telling.tells alive (congrArg TCPConnection.fsm same :)
        (congrArg TCPConnection.finRcvd same :) (Or.inl told)
  | reset reset =>
      obtain ⟨event, sendQueue, toAppl, same, told⟩ := c.processRst_tells.of_ok reset
      rw [event, same]
      refine telling.tells alive rfl rfl ?_
      rcases told with ⟨silent, -, -⟩ | ⟨active, code, ends, told⟩
      · exact Or.inl silent
      · refine Or.inr (Or.inr ⟨?_, code, ends, told⟩)
        refine (@nextState_rcvRst { c with sendQueue, toAppl } past).resolve_right ?_
        rintro ⟨waits, passive, -⟩
        exact Bool.noConfusion (passive.symm.trans (active waits))
  | unexpected =>
      have closes : (c.sendIndicationToApp .connectionReset).nextState .rcvUnexpSyn = .closed :=
        nextState_rcvUnexpSyn past
      exact telling.tells alive rfl rfl (Or.inr (Or.inr ⟨closes, .connectionReset, rfl, rfl⟩))
  | drops _ checked =>
      have same := (c.processAck_same tcpseg).of_ok checked
      exact telling.tells alive (congrArg TCPConnection.fsm same :)
        (congrArg TCPConnection.finRcvd same :) ((c.processAck_tells tcpseg).of_ok checked)
  | proceeds passes checked processed =>
      exact proceeds_told telling checks passes inTurn checked processed

theorem processClose_silent (open' : c.fsm = .synRcvd ∨ c.fsm = .established ∨ c.fsm = .closeWait)
    (closes : c.processClose = .ok r) : r.2.fsm = c.fsm ∧ r.2.toAppl = c.toAppl ∧ r.2.finRcvd = c.finRcvd := by
  rcases processClose_cases open' closes with ⟨-, rfl⟩ | ⟨-, rfl⟩
  · unfold queueFin sendFinNow sendFinSegment TCPBaseAlg.ackSent sendToIP
    exact ⟨rfl, rfl, rfl⟩
  · unfold queueFin
    exact ⟨rfl, rfl, rfl⟩

variable {input : TCPInput}

theorem LateReaction.tells
    (reaction : c.LateReaction input r) (telling : Telling c.fsm c) (past : opening c.fsm = false)
    (alive : c.fsm ≠ .closed) (inTurn : c.TellsInTurn input) : Told c.fsm (r.2.nextState r.1) r.2 := by
  have fsm := reaction.fsm
  cases reaction with
  | sends _ sent =>
      have advances := (TCPBaseAlg.sendCommandInvoked_returns _).of_ok sent
      have silent := (TCPBaseAlg.sendCommandInvoked_silent _).of_ok sent
      exact telling.tells alive fsm (congrArg TCPConnection.finRcvd advances.same :) (Or.inl silent)
  | closes open' closes =>
      obtain ⟨-, silent, finRcvd⟩ := processClose_silent (Or.inr open') closes
      exact telling.tells alive fsm finRcvd (Or.inl silent)
  | quiet same _ _ told =>
      exact telling.tells alive fsm (congrArg TCPConnection.finRcvd same :) told
  | segment reaction =>
      refine reaction.tells telling ?_ inTurn
      cases fsm : c.fsm <;> rw [fsm] at past
      case init | listen | synSent | synRcvd => cases past
      case closed => exact absurd fsm alive
      all_goals rfl
  | rexmit _ expires =>
      have same := ((TCPAlgorithm.processRexmitTimer_returns _).of_ok expires).same
      have flag := (congrArg TCPConnection.finRcvd same :)
      rcases (TCPAlgorithm.processRexmitTimer_tells rfl).of_ok expires with
        ⟨event, told⟩ | ⟨event, silent⟩
      · have closes : r.2.nextState r.1 = .closed := by
          rw [event]
          exact nextState_abort (fsm.symm ▸ past) (fsm.symm ▸ alive)
        exact telling.tells alive fsm flag (Or.inr (Or.inr ⟨closes, .timedOut, rfl, told⟩))
      · exact telling.tells alive fsm flag (Or.inl silent)

theorem EarlyReaction.tells
    (reaction : c.EarlyReaction input r) (telling : Telling c.fsm c) (alive : c.fsm ≠ .closed)
    (inTurn : c.TellsInTurn input) : Told c.fsm (r.2.nextState r.1) r.2 := by
  have fsm := reaction.fsm
  cases reaction with
  | quiet same _ _ told =>
      exact telling.tells alive fsm (congrArg TCPConnection.finRcvd same :) told
  | listens | opens | opensToSend | enqueues | syn =>
      exact telling.tells alive fsm rfl (Or.inl rfl)
  | closes waits closes =>
      obtain ⟨-, silent, finRcvd⟩ := processClose_silent (Or.inl waits) closes
      exact telling.tells alive fsm finRcvd (Or.inl silent)
  | synSent waits reaction =>
      cases reaction with
      | ignores same told =>
          exact telling.tells alive fsm (congrArg TCPConnection.finRcvd same :) (Or.inl told)
      | resets =>
          exact telling.tells alive fsm rfl
            (Or.inr (Or.inr ⟨nextState_eq waits _, .connectionReset, rfl, rfl⟩))
      | establishes _ _ _ notified =>
          have advances := (TCPBaseAlg.established_returns _ _).of_ok notified
          have silent := (TCPBaseAlg.established_silent _ _).of_ok notified
          have received {tcpseg : TCPSegment} {sendQueue : TCPVirtualDataSendQueue} :
              (c.withSynAckReceived tcpseg sendQueue).toAppl = c.toAppl ∧
                (c.withSynAckReceived tcpseg sendQueue).finRcvd = c.finRcvd := by
            unfold withSynAckReceived
            dsimp only
            split <;> exact ⟨rfl, rfl⟩
          exact telling.tells alive fsm
            ((congrArg TCPConnection.finRcvd advances.same :).trans received.2)
            (Or.inl (silent.trans received.1))
      | crosses => exact telling.tells alive fsm rfl (Or.inl rfl)
  | synRcvd waits reaction =>
      refine reaction.tells telling ?_ inTurn
      rw [waits]
      rfl

end TCPConnection

end IPv6Suite
