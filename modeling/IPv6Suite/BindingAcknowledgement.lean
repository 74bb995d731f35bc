import IPv6Suite.HomeAgentTunnels
import IPv6Suite.MIPv6SendPacketCheck

namespace IPv6Suite

open Lib

namespace IPv6Datagram

/-- A routing header of type 2 with the home address and no other -/
def HasType2 (d : IPv6Datagram) (home : Ipv6Addr) : Prop :=
  ∃ proc ∈ d.extHdrs, ∃ rh ∈ proc.rheads, rh.routingType = type2RtHdr ∧ rh.addr = [home]

end IPv6Datagram

namespace MIPv6MobilityState

def constructDatagram (src dest : Ipv6Addr) (message : List (BitVec 8)) (ifIndex : Int) (hopLimit : BitVec 16) :
    IPv6Datagram :=
  { IPv6Datagram.create src dest with
    encapsulatedMsg := .mobility false message
    outputPort := ifIndex
    hopLimit := hopLimit }

end MIPv6MobilityState

namespace BADatagram

/-- The datagram that `sendBA` sends for an acknowledgement, which has been padded to `message` -/
def datagram (reply : BADatagram) (message : List (BitVec 8)) (ifIndex : Int) (hopLimit : BitVec 16) :
    Exec IPv6Datagram :=
  let dgram := MIPv6MobilityState.constructDatagram reply.srcAddress reply.destAddress message ifIndex hopLimit
  match reply.type2 with
  | none => .ok dgram
  | some hoa => do
      let (_, dgram) ← MIPv6MobilityState.addRoutingHeader hoa dgram
      return dgram

variable {reply : BADatagram} {home : Ipv6Addr}

theorem datagram_ok (message : List (BitVec 8)) (ifIndex : Int) (hopLimit : BitVec 16) :
    ∃ d, reply.datagram message ifIndex hopLimit = .ok d ∧ d.srcAddress = reply.srcAddress ∧
      d.destAddress = reply.destAddress ∧ (d.HasType2 home ↔ reply.type2 = some home) := by
  obtain ⟨src, dest, type2, ba⟩ := reply
  cases type2 with
  | none =>
      refine ⟨_, rfl, rfl, rfl, iff_of_false ?_ nofun⟩
      rintro ⟨proc, inside, -⟩
      exact absurd inside List.not_mem_nil
  | some hoa =>
      refine ⟨_, rfl, rfl, rfl, ?_⟩
      constructor
      · rintro ⟨proc, inside, rh, carried, -, addr⟩
        cases List.mem_singleton.mp inside
        cases List.mem_singleton.mp carried
        exact congrArg some (List.singleton_inj.mp addr)
      · intro same
        cases same
        exact ⟨_, List.mem_singleton.mpr rfl, _, List.mem_singleton.mpr rfl, rfl, rfl⟩

end BADatagram

namespace MobilityDatagram

variable {dgram : MobilityDatagram BU} {reply : BADatagram}

/-- The answer of a correspondent or of a home agent to the Binding Update in a datagram -/
inductive AnsweredBy (dgram : MobilityDatagram BU) (reply : BADatagram) : Prop where
  | correspondent {cn : CorrespondentNode} {valid : Bool} {bc : BindingCache}
      (processes : cn.processBU dgram = .ok (valid, some (.ba reply), bc))
  | homeAgent {ha ha' : HomeAgent} {localDeliver : Ipv6Addr → Bool} {valid : Bool}
      (processes : ha.processBU localDeliver dgram = .ok (valid, some reply, ha'))

theorem type2_answer {home : Ipv6Addr} {ba : BA} (answers : dgram.answer home ba = some reply) :
    reply.destAddress = dgram.srcAddress ∧ (reply.type2 = some home ↔ dgram.destAddress ≠ home) := by
  unfold answer sendBA at answers
  split at answers
  · cases answers
  · cases answers
    refine ⟨rfl, ?_⟩
    dsimp only
    split <;> simp_all

theorem preprocessBU_answer {bc : BindingCache} {valid : Bool}
    (checks : MIPv6MobilityState.preprocessBU bc dgram = .ok (valid, some reply)) :
    ∃ ba, dgram.answer (MIPv6MobilityState.hoa dgram) ba = some reply := by
  rcases MIPv6MobilityState.preprocessBU_cases checks with
    ⟨-, none, -⟩ | ⟨-, none | ⟨bce, -, -, ⟨-, answers⟩ | ⟨-, answers⟩⟩⟩
  · cases none
  · cases none
  · exact ⟨_, answers.symm⟩
  · exact ⟨_, answers.symm⟩

theorem homeAgent_answer {ha ha' : HomeAgent} {localDeliver : Ipv6Addr → Bool} {valid : Bool}
    (processes : ha.processBU localDeliver dgram = .ok (valid, some reply, ha')) :
    ∃ ba, dgram.answer (MIPv6MobilityState.hoa dgram) ba = some reply := by
  unfold HomeAgent.processBU at processes
  obtain ⟨⟨checked, early⟩, checks, rest⟩ := bind_eq_ok.mp processes
  dsimp only at rest
  split at rest
  · cases rest
    exact preprocessBU_answer checks
  obtain ⟨_, -, rest⟩ := bind_eq_ok.mp rest
  split at rest
  · exact ⟨_, congrArg (·.2.1) (Except.ok.inj rest)⟩
  split at rest
  · obtain ⟨⟨removed, after⟩, -, rest⟩ := bind_eq_ok.mp rest
    exact ⟨_, congrArg (·.2.1) (Except.ok.inj rest)⟩
  · obtain ⟨after, -, rest⟩ := bind_eq_ok.mp rest
    exact ⟨_, congrArg (·.2.1) (Except.ok.inj rest)⟩

theorem map_ba_eq_some {answer : Option BADatagram} (same : answer.map MobilityReply.ba = some (.ba reply)) :
    answer = some reply := by
  obtain ⟨found, here, same⟩ := Option.map_eq_some_iff.mp same
  cases same
  exact here

theorem correspondent_answer {cn : CorrespondentNode} {bc : BindingCache} {valid : Bool}
    (processes : cn.processBU dgram = .ok (valid, some (.ba reply), bc)) :
    ∃ ba, dgram.answer (MIPv6MobilityState.hoa dgram) ba = some reply := by
  unfold CorrespondentNode.processBU at processes
  obtain ⟨⟨checked, early⟩, checks, rest⟩ := bind_eq_ok.mp processes
  dsimp only at rest
  split at rest
  · have same := map_ba_eq_some (congrArg (·.2.1) (Except.ok.inj rest))
    exact preprocessBU_answer (same ▸ checks)
  split at rest
  · exact ⟨_, map_ba_eq_some (congrArg (·.2.1) (Except.ok.inj rest))⟩
  obtain ⟨ni, -, rest⟩ := bind_eq_ok.mp rest
  split at rest
  · split at rest
    · exact ⟨_, map_ba_eq_some (congrArg (·.2.1) (Except.ok.inj rest))⟩
    · have same := congrArg (·.2.1) (Except.ok.inj rest)
      dsimp only at same
      split at same <;> cases same
  split at rest
  · exact ⟨_, map_ba_eq_some (congrArg (·.2.1) (Except.ok.inj rest))⟩
  split at rest
  · exact ⟨_, map_ba_eq_some (congrArg (·.2.1) (Except.ok.inj rest))⟩
  split at rest
  · exact ⟨_, map_ba_eq_some (congrArg (·.2.1) (Except.ok.inj rest))⟩
  · obtain ⟨_, -, rest⟩ := bind_eq_ok.mp rest
    have same := congrArg (·.2.1) (Except.ok.inj rest)
    dsimp only at same
    split at same
    · exact ⟨_, map_ba_eq_some same⟩
    · cases same

theorem AnsweredBy.answer (answered : dgram.AnsweredBy reply) :
    ∃ ba, dgram.answer (MIPv6MobilityState.hoa dgram) ba = some reply := by
  cases answered with
  | correspondent processes => exact correspondent_answer processes
  | homeAgent processes => exact homeAgent_answer processes

/-- The acknowledgement goes to the sender of the Binding Update. Its header is there when it has to be
exactly if the sender and the receiver of the update are both at the home address, or neither is. -/
theorem acknowledgement_type2 (answered : dgram.AnsweredBy reply) (message : List (BitVec 8)) (ifIndex : Int)
    (hopLimit : BitVec 16) :
    ∃ d, reply.datagram message ifIndex hopLimit = .ok d ∧ d.destAddress = dgram.srcAddress ∧
      ((d.HasType2 (MIPv6MobilityState.hoa dgram) ↔ d.destAddress ≠ MIPv6MobilityState.hoa dgram) ↔
        (dgram.srcAddress = MIPv6MobilityState.hoa dgram ↔
          dgram.destAddress = MIPv6MobilityState.hoa dgram)) := by
  obtain ⟨ba, answers⟩ := answered.answer
  obtain ⟨dest, type2⟩ := type2_answer answers
  obtain ⟨d, sends, -, dest', header⟩ := reply.datagram_ok message ifIndex hopLimit
  refine ⟨d, sends, dest'.trans dest, ?_⟩
  rw [header, type2, dest', dest, not_iff_not]
  exact ⟨Iff.symm, Iff.symm⟩

end MobilityDatagram

namespace HomeAgent

/-- An update that the mobile node sends from its home address when it has returned -/
def exampleReturn : MobilityDatagram BU :=
  { exampleDgram 2 2 1 0 with srcAddress := ⟨0x20000000, 0, 0, 2⟩ }

theorem acknowledgement_type2_example : ∃ (reply : BADatagram) (d : IPv6Datagram), reply.datagram [] 0 64 = .ok d ∧
    d.destAddress = ⟨0x20010000, 0, 0, 2⟩ ∧ d.HasType2 ⟨0x20000000, 0, 0, 2⟩ := by
  obtain ⟨reply, ha, processes⟩ : ∃ reply ha,
      exampleAgent.processBU (· = ⟨0x20000000, 0, 0, 1⟩) (exampleDgram 2 2 0 100) = .ok (true, some reply, ha) :=
    ⟨_, _, rfl⟩
  obtain ⟨d, sends, dest, header⟩ :=
    MobilityDatagram.acknowledgement_type2 (.homeAgent processes) [] 0 64
  refine ⟨reply, d, sends, dest, (header.mpr (by decide)).mpr ?_⟩
  rw [dest]
  decide

/-- The home agent puts the home address into the header of what it sends to the home address. -/
theorem acknowledgement_type2_fails : ∃ reply d, exampleReturn.AnsweredBy reply ∧
    reply.ba.status = .accepted ∧ reply.datagram [] 0 64 = .ok d ∧
    d.destAddress = MIPv6MobilityState.hoa exampleReturn ∧ d.HasType2 (MIPv6MobilityState.hoa exampleReturn) := by
  obtain ⟨first, ha, reply, registers, processes, answer⟩ : ∃ first ha reply,
      exampleAgent.step (exampleUpdate 2 2 0 100) = .ok first ∧
      first.processBU (· = ⟨0x20000000, 0, 0, 1⟩) exampleReturn = .ok (true, some reply, ha) ∧
      reply = ⟨⟨0x20000000, 0, 0, 1⟩, ⟨0x20000000, 0, 0, 2⟩, some ⟨0x20000000, 0, 0, 2⟩, ⟨.accepted, 1, 0⟩⟩ :=
    ⟨_, _, _, rfl, rfl, rfl⟩
  obtain ⟨d, sends, -, dest, header⟩ := @BADatagram.datagram_ok reply ⟨0x20000000, 0, 0, 2⟩ [] 0 64
  rw [answer] at dest header
  exact ⟨reply, d, .homeAgent processes, congrArg (·.ba.status) answer, sends, dest, header.mpr rfl⟩

end HomeAgent

end IPv6Suite
