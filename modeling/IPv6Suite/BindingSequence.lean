import IPv6Suite.MIPv6MobilityState
import IPv6Suite.MIPv6MStateMobileNode

namespace IPv6Suite

open Lib

/-- A mobile node and the agent that caches its binding, with the Binding Updates between them in
order and all acknowledgements. The messages carry the number of Binding Updates that were sent
before; `registered` are the ones that the agent accepted. -/
structure BindingExchange where
  node : MobileNode
  bc : BindingCache
  sent : Nat
  toAgent : List (Nat × MobilityDatagram BU)
  toNode : List (Nat × BADatagram)
  registered : List (MobilityDatagram BU)

/-- The addresses and flags that all Binding Updates of an exchange have -/
structure BindingParties where
  agent : Ipv6Addr
  hoa : Ipv6Addr
  homeReg : Bool
  mapReg : Bool

/-- `acknowledge` hands any of the acknowledgements to the mobile node, and `lose` drops any of the
Binding Updates. -/
inductive BindingExchangeEvent where
  | wait (now : ℚ)
  | routability (homeNI careOfNI : BitVec 16) (hoti coti : Option TIRetransTmr)
  | sendBU (coa : Ipv6Addr) (lifetime : Nat) (timestamp : ℚ)
  | retransmitBU (i : Nat)
  | lose (i : Nat)
  | deliver
  | acknowledge (i : Nat)

namespace MobileNode

/-- The sequence number of the latest Binding Update to `dest` -/
def number (mn : MobileNode) (dest : Ipv6Addr) : Option (BitVec 32) :=
  (mn.findBU dest).map (·.sequence)

variable {mn mn' : MobileNode} {dest other : Ipv6Addr}

theorem number_modifyBU {f : BuEntry → BuEntry} (addr : ∀ bue : BuEntry, bue.addr = other → (f bue).addr = other)
    (sequence : ∀ bue, mn.findBU other = some bue → (f bue).sequence = bue.sequence) :
    (mn.modifyBU other f).number dest = mn.number dest := by
  change Option.map _ (BindingUpdateList.findBU (BindingUpdateList.modifyBU other f mn.bul) dest) = _
  rw [BindingUpdateList.findBU_modifyBU addr]
  split
  · rename_i same
    subst same
    change ((mn.findBU other).map f).map _ = (mn.findBU other).map _
    cases found : mn.findBU other with
    | none => rfl
    | some bue => exact congrArg some (sequence bue found)
  · rfl

theorem Written.number {before : MobileNode} {new : BuEntry} (written : Written mn before new mn') :
    mn'.number new.addr = some new.sequence := by
  unfold MobileNode.number
  rw [written.findBU, if_pos rfl]
  rfl

theorem number_processBA {ba : BA} {accepted : Bool} (status : ba.status = .accepted)
    (acknowledges : mn.processBA ba other = .ok (accepted, mn')) : mn'.number dest = mn.number dest := by
  rcases processBA_cases acknowledges with ⟨-, -, -, -, rfl⟩ | ⟨stopped, stops, -, rest⟩
  · rfl
  · have list : ∀ addr, stopped.findBU addr = mn.findBU addr := fun addr =>
      congrArg (BindingUpdateList.findBU · addr) (stopTmr_ok stops).1
    have kept : stopped.number dest = mn.number dest := congrArg (Option.map _) (list dest)
    obtain ⟨-, rfl⟩ | ⟨bue, found, -, ⟨bue', updated, rfl⟩ | ⟨removed, -⟩⟩ := rest
    · exact kept
    · refine (number_modifyBU ?_ ?_).trans kept
      · exact fun _ _ => (acknowledged_addr updated).trans (BindingUpdateList.findBU_addr found)
      · intro entry before
        rw [list, found] at before
        cases before
        unfold acknowledged at updated
        rw [status] at updated
        dsimp only at updated
        split at updated <;> · cases updated; rfl
    · unfold acknowledged at removed
      rw [status] at removed
      dsimp only at removed
      split at removed <;> cases removed

theorem number_retransmitBU {i : Nat} (fires : mn.retransmitBU i = .ok (none, mn')) :
    mn'.number dest = mn.number dest := by
  obtain ⟨tmr, -, ⟨-, -, rfl⟩ | ⟨bule, dgram, timeout, scheduled, -, -, sent, -, -⟩ | ⟨-, -, rfl⟩⟩ :=
    retransmitBU_cases fires
  · rfl
  · cases sent
  · exact number_modifyBU (fun _ same => same) fun _ _ => rfl

end MobileNode

namespace BindingExchange

def send (s : BindingExchange) (dgram : Option (MobilityDatagram BU)) (node : MobileNode) :
    BindingExchange :=
  match dgram with
  | none => { s with node }
  | some dgram => { s with node, sent := s.sent + 1, toAgent := s.toAgent ++ [(s.sent, dgram)] }

def deliver (s : BindingExchange) : Exec BindingExchange :=
  match s.toAgent with
  | [] => .ok s
  | (number, dgram) :: toAgent => do
      let bu := dgram.encapsulatedMsg
      let hoa := MIPv6MobilityState.hoa dgram
      let (valid, reply) ← MIPv6MobilityState.preprocessBU s.bc dgram
      if valid then
        let ba := if bu.ack then dgram.answer hoa ⟨.accepted, bu.sequence, bu.expires⟩ else none
        return { s with
          bc := MIPv6MobilityState.registerBCE s.bc bu hoa dgram
          toAgent
          toNode := ba.toList.map (number, ·) ++ s.toNode
          registered := dgram :: s.registered }
      else return { s with toAgent, toNode := reply.toList.map (number, ·) ++ s.toNode }

def acknowledge (s : BindingExchange) (i : Nat) : Exec BindingExchange :=
  match s.toNode[i]? with
  | none => .ok s
  | some (_, reply) => do
      let (_, node) ← s.node.processBA reply.ba reply.srcAddress
      return { s with node }

def step (p : BindingParties) (s : BindingExchange) : BindingExchangeEvent → Exec BindingExchange
  | .wait now => do
      let node ← s.node.step (.wait now)
      return { s with node }
  | .routability homeNI careOfNI hoti coti => do
      let node ← s.node.step (.routability p.agent homeNI careOfNI hoti coti)
      return { s with node }
  | .sendBU coa lifetime timestamp => do
      let (dgram, node) ← s.node.sendBU p.agent coa p.hoa lifetime p.homeReg p.mapReg timestamp
      return s.send dgram node
  | .retransmitBU i => do
      let (dgram, node) ← s.node.retransmitBU i
      return s.send dgram node
  | .lose i => .ok { s with toAgent := s.toAgent.eraseIdx i }
  | .deliver => s.deliver
  | .acknowledge i => s.acknowledge i

/-- Nothing has been sent yet, and the agent may have bindings of other nodes. -/
structure Start (p : BindingParties) (s : BindingExchange) : Prop where
  bul : s.node.bul = []
  timers : s.node.buRetranTmrs = []
  bc : s.bc.findBinding p.hoa = none
  sent : s.sent = 0
  toAgent : s.toAgent = []
  toNode : s.toNode = []
  registered : s.registered = []

/-- The number of the next Binding Update fits into 16 bits and is taken from the entry for the
agent, and what is delivered is less than 2^15 above what is cached. -/
def InRange (p : BindingParties) (s : BindingExchange) : BindingExchangeEvent → Prop
  | .sendBU .. =>
      s.node.findBuleFor p.agent = s.node.findBU p.agent ∧
        ∀ bue, s.node.findBU p.agent = some bue → bue.sequence.toNat + 1 < 2 ^ 16
  | .retransmitBU _ =>
      ∀ bue, s.node.findBU p.agent = some bue → bue.sequence.toNat + 1 < 2 ^ 16
  | .deliver =>
      ∀ dgram, (s.toAgent.head?.map (·.2)) = some dgram → ∀ bce, s.bc.findBinding p.hoa = some bce →
        dgram.encapsulatedMsg.sequence.toNat < bce.seqNo.toNat + 2 ^ 15
  | _ => True

variable {p : BindingParties} {s t : BindingExchange} {e : BindingExchangeEvent}
  {es : List BindingExchangeEvent}

variable {i : Nat}

theorem acknowledge_cases (acknowledges : s.acknowledge i = .ok t) :
    t = s ∨ ∃ entry accepted node, entry ∈ s.toNode ∧
      s.node.processBA entry.2.ba entry.2.srcAddress = .ok (accepted, node) ∧ t = { s with node } := by
  unfold acknowledge at acknowledges
  split at acknowledges
  · cases acknowledges
    exact Or.inl rfl
  · rename_i number reply place
    obtain ⟨⟨accepted, node⟩, processes, rest⟩ := bind_eq_ok.mp acknowledges
    cases rest
    exact Or.inr ⟨_, accepted, node, List.mem_of_getElem? place, processes, rfl⟩

variable {coa : Ipv6Addr} {lifetime : Nat} {timestamp : ℚ}

theorem step_sendBU {dgram : Option (MobilityDatagram BU)} {node : MobileNode}
    (sends : s.node.sendBU p.agent coa p.hoa lifetime p.homeReg p.mapReg timestamp =
      .ok (dgram, node)) : s.step p (.sendBU coa lifetime timestamp) = .ok (s.send dgram node) := by
  change s.node.sendBU p.agent coa p.hoa lifetime p.homeReg p.mapReg timestamp >>= _ = _
  rw [sends]
  rfl

variable {dgram : MobilityDatagram BU}

variable {toAgent : List (Nat × MobilityDatagram BU)}

theorem deliver_valid {number : Nat}
    (flight : s.toAgent = (number, dgram) :: toAgent)
    (valid : MIPv6MobilityState.preprocessBU s.bc dgram = .ok (true, none)) :
    ∃ toNode, s.deliver = .ok { s with
      bc := MIPv6MobilityState.registerBCE s.bc dgram.encapsulatedMsg
        (MIPv6MobilityState.hoa dgram) dgram
      toAgent
      toNode
      registered := dgram :: s.registered } := by
  unfold deliver
  rw [flight]
  dsimp only
  rw [valid]
  exact ⟨_, rfl⟩

structure Addressed (p : BindingParties) (dgram : MobilityDatagram BU) : Prop where
  agent : dgram.destAddress = p.agent
  hoa : dgram.homeAddressOpt = some p.hoa
  homereg : dgram.encapsulatedMsg.homereg = p.homeReg

theorem Addressed.home (addressed : Addressed p dgram) : MIPv6MobilityState.hoa dgram = p.hoa := by
  unfold MIPv6MobilityState.hoa
  rw [addressed.hoa]
  rfl

/-- The agent has accepted nothing with a number above the one that it has cached. -/
structure Kept (p : BindingParties) (s : BindingExchange) : Prop where
  timers : ∀ tmr ∈ s.node.buRetranTmrs, Addressed p tmr.dgram
  flight : ∀ entry ∈ s.toAgent, Addressed p entry.2
  cached : ∀ bce, s.bc.findBinding p.hoa = some bce →
    bce.seqNo.toNat < 2 ^ 16 ∧ bce.isHomeReg = p.homeReg
  registered : ∀ dgram ∈ s.registered, MIPv6MobilityState.hoa dgram = p.hoa ∧
    ∃ bce, s.bc.findBinding p.hoa = some bce ∧
      dgram.encapsulatedMsg.sequence.toNat ≤ bce.seqNo.toNat

theorem Kept.of_start (start : Start p s) : Kept p s where
  timers tmr member := by
    rw [start.timers] at member
    cases member
  flight entry member := by
    rw [start.toAgent] at member
    cases member
  cached bce found := by
    rw [start.bc] at found
    cases found
  registered dgram member := by
    rw [start.registered] at member
    cases member

theorem Kept.node {node : MobileNode} (kept : Kept p s)
    (timers : ∀ tmr ∈ node.buRetranTmrs, tmr ∈ s.node.buRetranTmrs) : Kept p { s with node } :=
  ⟨fun tmr member => kept.timers tmr (timers tmr member), kept.flight, kept.cached, kept.registered⟩

theorem Kept.send {dgram : Option (MobilityDatagram BU)} {node : MobileNode} (kept : Kept p s)
    (addressed : ∀ d, dgram = some d → Addressed p d)
    (timers : ∀ tmr ∈ node.buRetranTmrs, tmr ∈ s.node.buRetranTmrs ∨ dgram = some tmr.dgram) :
    Kept p (s.send dgram node) := by
  have own : ∀ tmr ∈ node.buRetranTmrs, Addressed p tmr.dgram := by
    intro tmr member
    rcases timers tmr member with before | sent
    · exact kept.timers tmr before
    · exact addressed _ sent
  cases dgram with
  | none => exact ⟨own, kept.flight, kept.cached, kept.registered⟩
  | some d =>
      refine ⟨own, ?_, kept.cached, kept.registered⟩
      intro entry member
      rcases List.mem_append.mp member with before | last
      · exact kept.flight entry before
      · rw [List.mem_singleton.mp last]
        exact addressed d rfl

theorem Kept.deliver (kept : Kept p s) (delivers : s.deliver = .ok t) : Kept p t := by
  unfold BindingExchange.deliver at delivers
  split at delivers
  · cases delivers
    exact kept
  · rename_i number dgram toAgent flight
    obtain ⟨⟨valid, reply⟩, checks, rest⟩ := bind_eq_ok.mp delivers
    have addressed : Addressed p dgram := by
      apply kept.flight (number, dgram)
      rw [flight]
      exact List.mem_cons_self
    have left : ∀ entry ∈ toAgent, Addressed p entry.2 := by
      intro entry member
      apply kept.flight entry
      rw [flight]
      exact List.mem_cons_of_mem _ member
    dsimp only at rest
    split at rest
    · rename_i accepted
      cases rest
      obtain ⟨-, -, valid⟩ | ⟨refused, -⟩ := MIPv6MobilityState.preprocessBU_cases checks
      · have now : ∀ home, (MIPv6MobilityState.registerBCE s.bc dgram.encapsulatedMsg
            (MIPv6MobilityState.hoa dgram) dgram).findBinding home = _ :=
          fun _ => MIPv6MobilityState.findBinding_registerBCE
        refine ⟨kept.timers, left, ?_, ?_⟩
        · intro bce found
          rw [now, if_pos addressed.home] at found
          cases found
          rw [MIPv6MobilityState.registered_seqNo]
          refine ⟨BitVec.isLt _, ?_⟩
          unfold MIPv6MobilityState.registered
          cases before : s.bc.findBinding (MIPv6MobilityState.hoa dgram) with
          | none => exact addressed.homereg
          | some bce =>
              rw [addressed.home] at before
              exact (kept.cached bce before).2
        · intro other member
          rcases List.mem_cons.mp member with rfl | earlier
          · refine ⟨addressed.home, _, (now _).trans (if_pos addressed.home), ?_⟩
            rw [MIPv6MobilityState.registered_seqNo]
          · obtain ⟨home, bce, found, below⟩ := kept.registered other earlier
            refine ⟨home, _, (now _).trans (if_pos addressed.home), ?_⟩
            rw [MIPv6MobilityState.registered_seqNo]
            have newer := valid.newer bce (addressed.home ▸ found)
            rw [← Bool.not_eq_true,
              MIPv6MobilityState.lessThanEqualsModulo_short (kept.cached bce found).1] at newer
            omega
      · rw [accepted] at refused
        cases refused
    · cases rest
      exact ⟨kept.timers, left, kept.cached, kept.registered⟩

theorem Kept.step (kept : Kept p s) (steps : s.step p e = .ok t) : Kept p t := by
  cases e with
  | wait now =>
      cases steps
      exact kept.node fun _ => id
  | routability homeNI careOfNI hoti coti =>
      cases steps
      exact kept.node fun _ => id
  | sendBU coa lifetime timestamp =>
      obtain ⟨⟨dgram, node⟩, sends, rest⟩ := bind_eq_ok.mp steps
      cases rest
      rcases MobileNode.sendBU_cases sends with ⟨rfl, rfl⟩ | ⟨d, old, new, rfl, sending⟩
      · exact kept.send (fun _ none => nomatch none) fun _ => Or.inl
      · have addressed : Addressed p d :=
          ⟨sending.destAddress, sending.homeAddressOpt, sending.homereg⟩
        refine kept.send (fun _ same => Option.some.inj same ▸ addressed) ?_
        intro tmr member
        rcases sending.timers member with before | same
        · exact Or.inl before
        · exact Or.inr (congrArg some same.symm)
  | retransmitBU i =>
      obtain ⟨⟨dgram, node⟩, fires, rest⟩ := bind_eq_ok.mp steps
      cases rest
      refine kept.send ?_ fun _ => MobileNode.retransmitBU_timers fires
      rintro d rfl
      obtain ⟨tmr, place, ⟨-, none, -⟩ | ⟨bule, dgram, _, _, -, -, sent, again, -⟩ | ⟨none, -⟩⟩ :=
        MobileNode.retransmitBU_cases fires
      · cases none
      · cases sent
        have before := kept.timers tmr (List.mem_of_getElem? place)
        rw [again]
        exact ⟨before.agent, before.hoa, before.homereg⟩
      · cases none
  | lose i =>
      cases steps
      exact ⟨kept.timers, fun entry member => kept.flight entry (List.mem_of_mem_eraseIdx member),
        kept.cached, kept.registered⟩
  | deliver => exact kept.deliver steps
  | acknowledge i =>
      obtain rfl | ⟨entry, accepted, node, -, acknowledges, rfl⟩ := acknowledge_cases steps
      · exact kept
      · exact kept.node fun _ => MobileNode.processBA_timers acknowledges

/-- The numbers have not wrapped: what is in flight is newer than what is cached, in order, and the
messages have the numbers that they were sent with. -/
structure InSync (p : BindingParties) (s : BindingExchange) : Prop where
  kept : Kept p s
  bound : s.sent ≤ 2 ^ 16
  started : s.node.number p.agent = none → s.sent = 0
  latest : ∀ number, s.node.number p.agent = some number → number.toNat + 1 = s.sent
  flight : ∀ entry ∈ s.toAgent,
    entry.1 < s.sent ∧ entry.2.encapsulatedMsg.sequence.toNat = entry.1
  order : s.toAgent.Pairwise fun first second => first.1 < second.1
  cached : ∀ bce, s.bc.findBinding p.hoa = some bce →
    bce.seqNo.toNat < s.sent ∧ ∀ entry ∈ s.toAgent, bce.seqNo.toNat < entry.1
  acks : ∀ entry ∈ s.toNode, entry.2.srcAddress = p.agent ∧ entry.2.ba.status = .accepted ∧
    entry.2.ba.sequence.toNat = entry.1

theorem InSync.of_start (start : Start p s) : InSync p s where
  kept := .of_start start
  bound := by
    rw [start.sent]
    exact Nat.zero_le _
  started _ := start.sent
  latest number found := by
    unfold MobileNode.number MobileNode.findBU at found
    rw [start.bul] at found
    cases found
  flight entry member := by
    rw [start.toAgent] at member
    cases member
  order := by
    rw [start.toAgent]
    exact List.Pairwise.nil
  cached bce found := by
    rw [start.bc] at found
    cases found
  acks entry member := by
    rw [start.toNode] at member
    cases member

theorem InSync.node {node : MobileNode} (sync : InSync p s) (kept : Kept p { s with node })
    (number : node.number p.agent = s.node.number p.agent) : InSync p { s with node } :=
  ⟨kept, sync.bound, fun absent => sync.started (number ▸ absent),
    fun latest found => sync.latest latest (number ▸ found), sync.flight, sync.order, sync.cached,
    sync.acks⟩

theorem InSync.send {node : MobileNode} {number : BitVec 32}
    (sync : InSync p s) (kept : Kept p (s.send (some dgram) node))
    (now : node.number p.agent = some number) (next : number.toNat = s.sent)
    (sent : dgram.encapsulatedMsg.sequence = number.setWidth 16) (small : s.sent < 2 ^ 16) :
    InSync p (s.send (some dgram) node) where
  kept := kept
  bound := small
  started absent := by
    change node.number p.agent = none at absent
    rw [now] at absent
    cases absent
  latest latest found := by
    change node.number p.agent = some latest at found
    rw [now] at found
    cases found
    exact congrArg (· + 1) next
  flight entry member := by
    rcases List.mem_append.mp member with before | last
    · obtain ⟨less, same⟩ := sync.flight entry before
      exact ⟨Nat.lt_succ_of_lt less, same⟩
    · rw [List.mem_singleton.mp last]
      refine ⟨Nat.lt_succ_self _, ?_⟩
      change dgram.encapsulatedMsg.sequence.toNat = s.sent
      rw [sent, BitVec.toNat_setWidth, next]
      exact Nat.mod_eq_of_lt small
  order := by
    apply List.pairwise_append.mpr
    refine ⟨sync.order, List.pairwise_singleton _ _, ?_⟩
    intro first before second last
    rw [List.mem_singleton.mp last]
    exact (sync.flight first before).1
  cached bce found := by
    obtain ⟨less, newer⟩ := sync.cached bce found
    refine ⟨Nat.lt_succ_of_lt less, ?_⟩
    intro entry member
    rcases List.mem_append.mp member with before | last
    · exact newer entry before
    · rw [List.mem_singleton.mp last]
      exact less
  acks := sync.acks

/-- What is next in order passes the sequence check if it is in the window. -/
theorem InSync.newer {number : Nat} {bce : BcEntry} (sync : InSync p s)
    (flight : s.toAgent = (number, dgram) :: toAgent) (found : s.bc.findBinding p.hoa = some bce) :
    lessThanEqualsModulo (dgram.encapsulatedMsg.sequence.setWidth 32) bce.seqNo 16 = false ↔
      dgram.encapsulatedMsg.sequence.toNat < bce.seqNo.toNat + 2 ^ 15 := by
  have member : (number, dgram) ∈ s.toAgent := by
    rw [flight]
    exact List.mem_cons_self
  have above : bce.seqNo.toNat < number := (sync.cached bce found).2 _ member
  have same : dgram.encapsulatedMsg.sequence.toNat = number := (sync.flight _ member).2
  rw [← Bool.not_eq_true,
    MIPv6MobilityState.lessThanEqualsModulo_short (sync.kept.cached bce found).1]
  omega

theorem InSync.deliver (sync : InSync p s) (inRange : s.InRange p .deliver)
    (delivers : s.deliver = .ok t) : InSync p t := by
  have kept := sync.kept.deliver delivers
  unfold BindingExchange.deliver at delivers
  split at delivers
  · cases delivers
    exact sync
  · rename_i number dgram toAgent flight
    obtain ⟨⟨valid, reply⟩, checks, rest⟩ := bind_eq_ok.mp delivers
    have member : (number, dgram) ∈ s.toAgent := by
      rw [flight]
      exact List.mem_cons_self
    have left : ∀ entry ∈ toAgent, entry ∈ s.toAgent := by
      intro entry later
      rw [flight]
      exact List.mem_cons_of_mem _ later
    have addressed := sync.kept.flight _ member
    have same := (sync.flight _ member).2
    have order := sync.order
    rw [flight] at order
    obtain ⟨next, order⟩ := List.pairwise_cons.mp order
    dsimp only at rest
    rcases MIPv6MobilityState.preprocessBU_cases checks with ⟨rfl, rfl, valid⟩ | ⟨rfl, refused⟩
    · rw [if_pos rfl] at rest
      cases rest
      refine ⟨kept, sync.bound, sync.started, sync.latest, fun entry later => sync.flight entry (left entry later),
        order, ?_, ?_⟩
      · intro bce found
        change (MIPv6MobilityState.registerBCE s.bc dgram.encapsulatedMsg _ dgram).findBinding _ = _ at found
        rw [MIPv6MobilityState.findBinding_registerBCE, if_pos addressed.home] at found
        cases found
        rw [MIPv6MobilityState.registered_seqNo, same]
        exact ⟨(sync.flight _ member).1, next⟩
      · intro entry member
        rcases List.mem_append.mp member with new | before
        · obtain ⟨reply, answered, rfl⟩ := List.mem_map.mp new
          rw [Option.mem_toList] at answered
          split at answered
          · obtain ⟨source, ba⟩ := MobilityDatagram.answer_some answered
            rw [source, ba]
            exact ⟨addressed.agent, rfl, same⟩
          · cases answered
        · exact sync.acks entry before
    · rw [if_neg Bool.false_ne_true] at rest
      cases rest
      have none : reply = none := by
        rcases refused with none | ⟨bce, found, -, ⟨stale, -⟩ | ⟨changed, -⟩⟩
        · exact none
        · rw [addressed.home] at found
          have newer := (sync.newer flight found).mpr
            (inRange dgram (by rw [flight]; rfl) bce found)
          rw [newer] at stale
          cases stale
        · rw [addressed.home] at found
          exact absurd ((sync.kept.cached bce found).2.trans addressed.homereg.symm) changed
      subst none
      exact ⟨kept, sync.bound, sync.started, sync.latest, fun entry later => sync.flight entry (left entry later),
        order, fun bce found => ⟨(sync.cached bce found).1,
          fun entry later => (sync.cached bce found).2 entry (left entry later)⟩, sync.acks⟩

theorem InSync.next {bue : BuEntry} (sync : InSync p s) (found : s.node.findBU p.agent = some bue)
    (small : bue.sequence.toNat + 1 < 2 ^ 16) : (bue.sequence + 1).toNat = s.sent ∧ s.sent < 2 ^ 16 := by
  have latest := sync.latest bue.sequence (congrArg (Option.map _) found)
  have sum : (bue.sequence + 1).toNat = bue.sequence.toNat + 1 := by
    rw [BitVec.toNat_add]
    change (bue.sequence.toNat + 1) % 2 ^ 32 = _
    omega
  omega

theorem InSync.sendBU {dgram : Option (MobilityDatagram BU)} {node : MobileNode} (sync : InSync p s)
    (inRange : s.InRange p (.sendBU coa lifetime timestamp))
    (sends : s.node.sendBU p.agent coa p.hoa lifetime p.homeReg p.mapReg timestamp = .ok (dgram, node))
    (kept : Kept p (s.send dgram node)) : InSync p (s.send dgram node) := by
  obtain ⟨own, small⟩ := inRange
  rcases MobileNode.sendBU_cases sends with ⟨rfl, rfl⟩ | ⟨d, old, new, rfl, sending⟩
  · exact sync.node kept rfl
  · have old_eq : s.node.findBU p.agent = old := own.symm.trans sending.found
    have addr : new.addr = p.agent := by
      rw [sending.addr, MobileNode.bulAddr, own]
      cases found : s.node.findBU p.agent with
      | none => rfl
      | some bue => exact BindingUpdateList.findBU_addr found
    have next : new.sequence.toNat = s.sent ∧ s.sent < 2 ^ 16 := by
      rw [sending.sequence, ← old_eq]
      cases found : s.node.findBU p.agent with
      | none =>
          have none := sync.started (congrArg (Option.map _) found)
          rw [none]
          exact ⟨rfl, by decide⟩
      | some bue => exact sync.next found (small bue found)
    have now := sending.written.number
    rw [addr] at now
    exact sync.send kept now next.1 sending.sent next.2

theorem InSync.retransmitBU {dgram : Option (MobilityDatagram BU)} {node : MobileNode}
    (sync : InSync p s) (inRange : s.InRange p (.retransmitBU i))
    (fires : s.node.retransmitBU i = .ok (dgram, node)) (kept : Kept p (s.send dgram node)) :
    InSync p (s.send dgram node) := by
  cases dgram with
  | none => exact sync.node kept (MobileNode.number_retransmitBU fires)
  | some d =>
      obtain ⟨tmr, place, ⟨-, none, -⟩ | ⟨bue, again, _, _, -, found, sent, rfl, rfl⟩ | ⟨none, -⟩⟩ :=
        MobileNode.retransmitBU_cases fires
      · cases none
      · cases sent
        have agent : tmr.dgram.destAddress = p.agent :=
          (sync.kept.timers tmr (List.mem_of_getElem? place)).agent
        rw [agent] at found kept ⊢
        have next := sync.next found (inRange bue found)
        have addr : (bue.resend s.node.now).addr = p.agent := MobileNode.resend_addr found
        have now := (MobileNode.Written.modifyBU found addr).number
        rw [addr] at now
        exact sync.send kept now next.1 rfl next.2
      · cases none

theorem InSync.step (sync : InSync p s) (inRange : s.InRange p e) (steps : s.step p e = .ok t) : InSync p t := by
  have kept := sync.kept.step steps
  cases e with
  | wait now =>
      cases steps
      exact sync.node kept rfl
  | routability homeNI careOfNI hoti coti =>
      cases steps
      exact sync.node kept (MobileNode.number_modifyBU (fun _ same => same) fun _ _ => rfl)
  | sendBU coa lifetime timestamp =>
      obtain ⟨⟨dgram, node⟩, sends, rest⟩ := bind_eq_ok.mp steps
      cases rest
      exact sync.sendBU inRange sends kept
  | retransmitBU i =>
      obtain ⟨⟨dgram, node⟩, fires, rest⟩ := bind_eq_ok.mp steps
      cases rest
      exact sync.retransmitBU inRange fires kept
  | lose i =>
      cases steps
      refine ⟨kept, sync.bound, sync.started, sync.latest, ?_, ?_, ?_, sync.acks⟩
      · exact fun entry member => sync.flight entry (List.mem_of_mem_eraseIdx member)
      · exact sync.order.sublist (List.eraseIdx_sublist _ _)
      · exact fun bce found => ⟨(sync.cached bce found).1,
          fun entry member => (sync.cached bce found).2 entry (List.mem_of_mem_eraseIdx member)⟩
  | deliver => exact sync.deliver inRange steps
  | acknowledge i =>
      obtain rfl | ⟨entry, accepted, node, member, acknowledges, rfl⟩ := acknowledge_cases steps
      · exact sync
      · exact sync.node kept
          (MobileNode.number_processBA (sync.acks entry member).2.1 acknowledges)

/-- Home registrations that are delivered one after the other, from two care-of addresses in turn -/
structure CountedTo (p : BindingParties) (n : Nat) (s : BindingExchange) : Prop where
  sync : InSync p s
  sent : s.sent = n
  delivered : s.toAgent = []
  now : s.node.now ≠ 0
  plain : s.node.signalingEnhance = false
  cached : ∀ bce, s.bc.findBinding p.hoa = some bce → bce.seqNo.toNat + 1 = n
  bound : n ≠ 0 → ∃ bce, s.bc.findBinding p.hoa = some bce

/-- The node of these parties registers with its home agent, and its home address is global. -/
structure Registers (p : BindingParties) : Prop where
  homeReg : p.homeReg = true
  mapReg : p.mapReg = false
  routable : MIPv6MobilityState.Routable p.hoa

theorem CountedTo.of_start (start : Start p s) (now : s.node.now ≠ 0)
    (plain : s.node.signalingEnhance = false) : CountedTo p 0 s where
  sync := .of_start start
  sent := start.sent
  delivered := start.toAgent
  now := now
  plain := plain
  cached bce found := by
    rw [start.bc] at found
    cases found
  bound := absurd rfl

variable {n : Nat}

theorem CountedTo.plain_own (counted : CountedTo p n s) : s.node.findBuleFor p.agent = s.node.findBU p.agent := by
  unfold MobileNode.findBuleFor
  rw [if_neg (ne_true_of_eq_false counted.plain), Option.none_or]

/-- The next Binding Update is sent. -/
theorem CountedTo.sendBU (registers : Registers p) (counted : CountedTo p n s) :
    ∃ coa dgram node, s.node.sendBU p.agent coa p.hoa 100 p.homeReg p.mapReg 0 = .ok (some dgram, node) ∧
      dgram.timestamp ≠ 0 ∧ node.now ≠ 0 ∧ node.signalingEnhance = false := by
  have moves : ∃ coa, ∀ bule, s.node.findBuleFor p.agent = some bule → bule.careOfAddr ≠ coa := by
    cases found : s.node.findBuleFor p.agent with
    | none => exact ⟨.unspecified, fun _ none => nomatch none⟩
    | some bule =>
        by_cases unspecified : bule.careOfAddr = .unspecified
        · refine ⟨.loopback, ?_⟩
          rintro _ ⟨⟩
          rw [unspecified]
          decide
        · refine ⟨.unspecified, ?_⟩
          rintro _ ⟨⟩
          exact unspecified
  obtain ⟨coa, moved⟩ := moves
  have sending : ∃ dgram node, s.node.sendBU p.agent coa p.hoa 100 true false 0 =
      .ok (some dgram, node) ∧ dgram.timestamp = s.node.now ∧ node.now = s.node.now ∧
        node.signalingEnhance = s.node.signalingEnhance := MobileNode.sendBU_home moved
  obtain ⟨dgram, node, sends, stamp, now, plain⟩ := sending
  refine ⟨coa, dgram, node, ?_, stamp ▸ counted.now, now ▸ counted.now, plain.trans counted.plain⟩
  rw [registers.homeReg, registers.mapReg, sends]

theorem CountedTo.small (counted : CountedTo p n s) (short : n < 2 ^ 16) (bue : BuEntry)
    (found : s.node.findBU p.agent = some bue) : bue.sequence.toNat + 1 < 2 ^ 16 := by
  have latest := counted.sync.latest bue.sequence (congrArg (Option.map _) found)
  rw [counted.sent] at latest
  omega

theorem CountedTo.valid {node : MobileNode} (registers : Registers p) (counted : CountedTo p n s)
    (sync : InSync p (s.send (some dgram) node)) : MIPv6MobilityState.Valid s.bc dgram := by
  have flight : (s.send (some dgram) node).toAgent = [(s.sent, dgram)] := by
    change s.toAgent ++ [(s.sent, dgram)] = _
    rw [counted.delivered]
    rfl
  have member : (s.sent, dgram) ∈ (s.send (some dgram) node).toAgent := by
    rw [flight]
    exact List.mem_cons_self
  have addressed := sync.kept.flight _ member
  have same : dgram.encapsulatedMsg.sequence.toNat = s.sent := (sync.flight _ member).2
  have home := addressed.home
  change MIPv6MobilityState.hoa dgram = p.hoa at home
  refine ⟨home ▸ registers.routable, ?_, ?_, ?_⟩
  · intro bce found
    rw [home] at found
    have cached := counted.cached bce found
    rw [sync.newer flight found, same, counted.sent]
    omega
  · intro bce found
    rw [home] at found
    exact (counted.sync.kept.cached bce found).2.trans addressed.homereg.symm
  · intro _ none
    have some := addressed.hoa
    rw [none] at some
    cases some

theorem CountedTo.next (registers : Registers p) (counted : CountedTo p n s) (short : n < 2 ^ 16) :
    ∃ es t, Runs (BindingExchange.step p) (InRange p) s es t ∧ CountedTo p (n + 1) t := by
  obtain ⟨coa, dgram, node, sending, stamp, now, plain⟩ := counted.sendBU registers
  have sends := step_sendBU sending
  have inRange : s.InRange p (.sendBU coa 100 0) := ⟨counted.plain_own, counted.small short⟩
  have sync := counted.sync.step inRange sends
  have valid := counted.valid registers sync
  have flight : (s.send (some dgram) node).toAgent = [(s.sent, dgram)] := by
    change s.toAgent ++ [(s.sent, dgram)] = _
    rw [counted.delivered]
    rfl
  have member : (s.sent, dgram) ∈ (s.send (some dgram) node).toAgent := by
    rw [flight]
    exact List.mem_cons_self
  have home : MIPv6MobilityState.hoa dgram = p.hoa := (sync.kept.flight _ member).home
  have same : dgram.encapsulatedMsg.sequence.toNat = n :=
    (sync.flight _ member).2.trans counted.sent
  have delivers : ∃ toNode, (s.send (some dgram) node).step p .deliver = .ok
      { s.send (some dgram) node with
        bc := MIPv6MobilityState.registerBCE s.bc dgram.encapsulatedMsg p.hoa dgram
        toAgent := []
        toNode
        registered := dgram :: s.registered } := by
    rw [← home]
    exact deliver_valid flight (MIPv6MobilityState.preprocessBU_valid valid stamp)
  obtain ⟨toNode, delivers⟩ := delivers
  have inWindow : (s.send (some dgram) node).InRange p .deliver := by
    intro other first bce found
    rw [flight] at first
    cases first
    have cached := counted.cached bce found
    change dgram.encapsulatedMsg.sequence.toNat < _
    omega
  refine ⟨[.sendBU coa 100 0, .deliver], _,
    .cons inRange sends (.cons inWindow delivers (.nil _)), sync.step inWindow delivers,
    congrArg (· + 1) counted.sent, rfl, now, plain, ?_, ?_⟩
  · intro bce found
    change (MIPv6MobilityState.registerBCE s.bc _ p.hoa dgram).findBinding _ = _ at found
    rw [MIPv6MobilityState.findBinding_registerBCE, if_pos rfl] at found
    cases found
    rw [MIPv6MobilityState.registered_seqNo, same]
  · intro _
    exact ⟨_, MIPv6MobilityState.findBinding_registerBCE.trans (if_pos rfl)⟩

theorem CountedTo.runs {n k : Nat} (registers : Registers p) (counted : CountedTo p n s) (short : n + k ≤ 2 ^ 16) :
    ∃ es t, Runs (BindingExchange.step p) (InRange p) s es t ∧ CountedTo p (n + k) t := by
  induction k generalizing n s with
  | zero => exact ⟨[], s, .nil s, counted⟩
  | succ k ih =>
      obtain ⟨es, t, first, counted_t⟩ := counted.next registers (by omega)
      obtain ⟨fs, u, rest, counted_u⟩ := ih counted_t (by omega)
      rw [Nat.add_right_comm] at counted_u
      exact ⟨es ++ fs, u, first.append rest, counted_u⟩

/-- The Binding Update that is sent after number 65535 has number 0 and is rejected. -/
theorem CountedTo.wraps (registers : Registers p) (counted : CountedTo p (2 ^ 16) s) :
    ∃ e dgram node bce, s.step p e = .ok (s.send (some dgram) node) ∧ s.bc.findBinding p.hoa = some bce ∧
      lessThanEqualsModulo (dgram.encapsulatedMsg.sequence.setWidth 32) bce.seqNo 16 = true := by
  obtain ⟨coa, dgram, node, sends, -⟩ := counted.sendBU registers
  obtain ⟨bce, cached⟩ := counted.bound (by decide)
  refine ⟨_, dgram, node, bce, step_sendBU sends, cached, ?_⟩
  obtain ⟨none, -⟩ | ⟨d, old, new, same, sending⟩ := MobileNode.sendBU_cases sends
  · cases none
  cases same
  have zero : dgram.encapsulatedMsg.sequence.toNat = 0 := by
    have old_eq : s.node.findBU p.agent = old := counted.plain_own.symm.trans sending.found
    rw [sending.sent, sending.sequence, ← old_eq]
    cases found : s.node.findBU p.agent with
    | none => rfl
    | some bue =>
        have latest := counted.sync.latest bue.sequence (congrArg (Option.map _) found)
        rw [counted.sent] at latest
        change ((bue.sequence + 1).setWidth 16).toNat = 0
        bv_omega
  rw [MIPv6MobilityState.lessThanEqualsModulo_short (counted.sync.kept.cached bce cached).1, zero]
  exact Or.inl (Nat.zero_le _)

end BindingExchange

end IPv6Suite
