import IPv6Suite.SourceAddress

namespace IPv6Suite

open Lib

/-- What multicast forwarding reads of its node, with the count of datagrams -/
structure IPv6Multicast where
  ift : InterfaceTable
  odad : Bool
  defaultRouter : Bool
  ctrIP6InMcastPkts : BitVec 32

/-- A copy and its control information, on `fragmentationOut` -/
abbrev MulticastCopy := IPv6Datagram × AddrResInfo

namespace IPv6Multicast

def multicastLLAddr (addr : Ipv6Addr) : Exec String := do
  Exec.assert (addr.and .multicastPrefix = .multicastPrefix)
  return "FF:FF:FF:FF:FF:FF"

def source (s : IPv6Multicast) (datagram : IPv6Datagram) (ifIndex : Nat) : Exec Ipv6Addr :=
  if datagram.srcAddress = .unspecified then
    s.ift.determineSrcAddress s.odad s.defaultRouter datagram.destAddress ifIndex
  else .ok datagram.srcAddress

/-- Without a source address no copy is sent. -/
def dupAndSendPacket (s : IPv6Multicast) (datagram : IPv6Datagram) (ifIndex : Nat) : Exec (Option MulticastCopy) := do
  let srcAddress ← s.source datagram ifIndex
  if srcAddress = .unspecified then return none
  else do
    let linkLayerAddr ← multicastLLAddr datagram.destAddress
    return some ({ datagram.dup with srcAddress },
      { AddrResInfo.create with nextHop := datagram.destAddress, ifIndex, linkLayerAddr })

/-- The loop of `endService` over the interfaces that are left. It ends with the first interface that has the source
address, if an interface is specified. An input port of -1 is none of the interfaces. -/
def sendLoop (s : IPv6Multicast) (datagram : IPv6Datagram) (ifaceSpecified : Bool) :
    List Nat → Exec (List MulticastCopy)
  | [] => .ok []
  | ifIndex :: rest =>
      if (ifIndex : Int) = datagram.inputPort then sendLoop s datagram ifaceSpecified rest
      else if ifaceSpecified then do
        let ie ← Exec.deref .nullDeref (s.ift.interfaceByPortNo ifIndex)
        if ie.addrAssigned datagram.srcAddress then
          let copy ← s.dupAndSendPacket datagram ifIndex
          return copy.toList
        else sendLoop s datagram ifaceSpecified rest
      else do
        let copy ← s.dupAndSendPacket datagram ifIndex
        let copies ← sendLoop s datagram ifaceSpecified rest
        return copy.toList ++ copies

def endService (s : IPv6Multicast) (datagram : IPv6Datagram) : Exec (IPv6Multicast × List MulticastCopy) := do
  Exec.assert (datagram.destAddress.isMulticast = true)
  let ifaceSpecified : Bool := datagram.srcAddress ≠ .unspecified ∧ datagram.inputPort ≠ -1
  let ctrIP6InMcastPkts := if ifaceSpecified then s.ctrIP6InMcastPkts + 1 else s.ctrIP6InMcastPkts
  let copies ← s.sendLoop datagram ifaceSpecified (List.range s.ift.numInterfaceGates)
  return ({ s with ctrIP6InMcastPkts }, copies)

def sentOn (copies : List MulticastCopy) : List Nat := copies.map (·.2.ifIndex)

/-- A source address can be determined. -/
def found (s : IPv6Multicast) (datagram : IPv6Datagram) (ifIndex : Nat) : Bool :=
  match s.source datagram ifIndex with
  | .ok srcAddress => srcAddress ≠ .unspecified
  | .error _ => false

/-- Looking for a source address ends with an address. -/
def Answers (s : IPv6Multicast) (datagram : IPv6Datagram) (ifIndex : Nat) : Prop :=
  ∃ srcAddress, s.source datagram ifIndex = .ok srcAddress

def assigned (s : IPv6Multicast) (addr : Ipv6Addr) (ifIndex : Nat) : Bool :=
  s.ift.ports[ifIndex]?.any (·.addrAssigned addr)

/-- Which interfaces a datagram is to be sent on: all others when it was received on one, an interface with its source
address when it has one, and else all those on which there is a source address. -/
structure Rule (s : IPv6Multicast) (datagram : IPv6Datagram) (ports : List Nat) : Prop where
  received : ∀ p < s.ift.numInterfaceGates, datagram.inputPort = p →
    ∀ i < s.ift.numInterfaceGates, ports.count i = if i = p then 0 else 1
  sourced : datagram.inputPort = -1 → datagram.srcAddress ≠ .unspecified →
    (∃ i, s.assigned datagram.srcAddress i = true) → ∃ i, s.assigned datagram.srcAddress i = true ∧ ports = [i]
  unsourced : datagram.inputPort = -1 → datagram.srcAddress = .unspecified →
    ∀ i < s.ift.numInterfaceGates, ports.count i = if s.found datagram i then 1 else 0

variable {s : IPv6Multicast} {datagram : IPv6Datagram} {i : Nat}

theorem and_multicastPrefix {addr : Ipv6Addr} (multicast : addr.isMulticast = true) :
    addr.and .multicastPrefix = .multicastPrefix := by
  unfold Ipv6Addr.isMulticast at multicast
  rw [beq_iff_eq] at multicast
  simpa [Ipv6Addr.and, Ipv6Addr.multicastPrefix] using multicast

theorem dupAndSendPacket_ok (multicast : datagram.destAddress.isMulticast = true) (answers : s.Answers datagram i) :
    ∃ copy, s.dupAndSendPacket datagram i = .ok copy ∧
      sentOn copy.toList = if s.found datagram i then [i] else [] := by
  obtain ⟨srcAddress, source⟩ := answers
  unfold dupAndSendPacket found multicastLLAddr
  rw [source, ok_bind, assert_pos (and_multicastPrefix multicast), ok_bind]
  by_cases none : srcAddress = .unspecified
  · refine ⟨_, if_pos none, ?_⟩
    simp [none, sentOn]
  · refine ⟨_, if_neg none, ?_⟩
    simp [none, sentOn]

theorem dupAndSendPacket_answers {copy : Option MulticastCopy} (sends : s.dupAndSendPacket datagram i = .ok copy) :
    s.Answers datagram i := by
  obtain ⟨srcAddress, source, -⟩ := bind_eq_ok.mp sends
  exact ⟨srcAddress, source⟩

/-- Without a specified interface, a copy goes out on each other interface with a source address. -/
theorem sendLoop_all (multicast : datagram.destAddress.isMulticast = true) (rest : List Nat)
    (answers : ∀ i ∈ rest, (i : Int) ≠ datagram.inputPort → s.Answers datagram i) :
    ∃ copies, s.sendLoop datagram false rest = .ok copies ∧
      sentOn copies = rest.filter fun i : Nat => (i : Int) ≠ datagram.inputPort ∧ s.found datagram i = true := by
  induction rest with
  | nil => exact ⟨[], rfl, rfl⟩
  | cons i rest ih =>
      obtain ⟨copies, sent, ports⟩ := ih fun j member => answers j (List.mem_cons_of_mem i member)
      unfold sendLoop
      split
      · rename_i incoming
        refine ⟨copies, sent, ?_⟩
        rw [List.filter_cons_of_neg (by simp [incoming])]
        exact ports
      · rename_i other
        obtain ⟨copy, sends, on⟩ := dupAndSendPacket_ok multicast (answers i List.mem_cons_self other)
        rw [if_neg (by decide), sends, ok_bind, sent]
        refine ⟨_, rfl, ?_⟩
        rw [sentOn, List.map_append]
        show sentOn _ ++ sentOn _ = _
        rw [on, ports]
        by_cases there : s.found datagram i = true
        · rw [if_pos there, List.filter_cons_of_pos (by simp [other, there])]
          rfl
        · rw [if_neg there, List.filter_cons_of_neg (by simp [there])]
          rfl

theorem sendLoop_all_answers {rest : List Nat} {copies : List MulticastCopy}
    (sent : s.sendLoop datagram false rest = .ok copies) :
    ∀ i ∈ rest, (i : Int) ≠ datagram.inputPort → s.Answers datagram i := by
  induction rest generalizing copies with
  | nil => exact nofun
  | cons j rest ih =>
      unfold sendLoop at sent
      intro i member other
      split at sent
      · rename_i incoming
        cases List.mem_cons.mp member with
        | inl here =>
            rw [here] at other
            exact absurd incoming other
        | inr later => exact ih sent i later other
      · rw [if_neg (by decide)] at sent
        obtain ⟨copy, sends, sent⟩ := bind_eq_ok.mp sent
        obtain ⟨others, sent, -⟩ := bind_eq_ok.mp sent
        cases List.mem_cons.mp member with
        | inl here =>
            rw [here]
            exact dupAndSendPacket_answers sends
        | inr later => exact ih sent i later other

theorem sendLoop_first (multicast : datagram.destAddress.isMulticast = true)
    (specified : datagram.srcAddress ≠ .unspecified) (rest : List Nat)
    (present : ∀ i ∈ rest, i < s.ift.numInterfaceGates) :
    ∃ copies, s.sendLoop datagram true rest = .ok copies ∧
      sentOn copies = (rest.find? fun i : Nat =>
        (i : Int) ≠ datagram.inputPort ∧ s.assigned datagram.srcAddress i = true).toList := by
  induction rest with
  | nil => exact ⟨[], rfl, rfl⟩
  | cons i rest ih =>
      obtain ⟨copies, sent, ports⟩ := ih fun j member => present j (List.mem_cons_of_mem i member)
      have bound : i < s.ift.ports.length := present i List.mem_cons_self
      unfold sendLoop
      split
      · rename_i incoming
        refine ⟨copies, sent, ?_⟩
        rw [List.find?_cons_of_neg (by simp [incoming])]
        exact ports
      · rename_i other
        have located : s.ift.interfaceByPortNo i = some s.ift.ports[i] := by
          unfold InterfaceTable.interfaceByPortNo
          rw [if_neg (by omega), if_pos (by omega), Int.toNat_natCast]
          exact List.getElem?_eq_getElem bound
        have here : s.ift.ports[i].addrAssigned datagram.srcAddress = s.assigned datagram.srcAddress i := by
          rw [assigned, List.getElem?_eq_getElem bound, Option.any_some]
        rw [if_pos rfl, located, deref_some, ok_bind, here]
        split
        · rename_i assigned
          have source : s.source datagram i = .ok datagram.srcAddress := if_neg specified
          have there : s.found datagram i = true := by
            unfold found
            rw [source]
            simpa using specified
          obtain ⟨copy, sends, on⟩ := dupAndSendPacket_ok multicast ⟨_, source⟩
          rw [sends]
          refine ⟨_, rfl, ?_⟩
          rw [on, if_pos there, List.find?_cons_of_pos (by simp [other, assigned])]
          rfl
        · rename_i missing
          refine ⟨copies, sent, ?_⟩
          rw [List.find?_cons_of_neg (by simp [missing])]
          exact ports

/-- When the rule is kept. A received datagram with a source address may have only one other interface to go to, and it
has to be the one with that address; a datagram of this node with a source address needs a node with one interface. -/
structure Suits (s : IPv6Multicast) (datagram : IPv6Datagram) : Prop where
  relayed : ∀ p < s.ift.numInterfaceGates, datagram.inputPort = p → datagram.srcAddress ≠ .unspecified →
    ∀ i < s.ift.numInterfaceGates, i ≠ p → s.assigned datagram.srcAddress i = true ∧
      ∀ j < s.ift.numInterfaceGates, j ≠ p → j = i
  anonymous : ∀ p < s.ift.numInterfaceGates, datagram.inputPort = p → datagram.srcAddress = .unspecified →
    ∀ i < s.ift.numInterfaceGates, i ≠ p → s.found datagram i = true
  sourced : datagram.inputPort = -1 → datagram.srcAddress ≠ .unspecified →
    (∃ i, s.assigned datagram.srcAddress i = true) → s.ift.numInterfaceGates = 1
  unsourced : datagram.inputPort = -1 → datagram.srcAddress = .unspecified →
    ∀ i < s.ift.numInterfaceGates, s.Answers datagram i

theorem count_filter_range {n i : Nat} (bound : i < n) (keep : Nat → Bool) :
    ((List.range n).filter keep).count i = if keep i then 1 else 0 := by
  have distinct := (List.nodup_range (n := n)).filter keep
  rw [distinct.count]
  simp [bound]

theorem answers_of_found (found : s.found datagram i = true) : s.Answers datagram i := by
  unfold IPv6Multicast.found at found
  split at found
  · rename_i srcAddress source
    exact ⟨srcAddress, source⟩
  · cases found

theorem found_of_specified (specified : datagram.srcAddress ≠ .unspecified) (i : Nat) : s.found datagram i = true := by
  have source : s.source datagram i = .ok datagram.srcAddress := if_neg specified
  unfold found
  rw [source]
  simpa using specified

theorem assigned_bound {addr : Ipv6Addr} (assigned : s.assigned addr i = true) : i < s.ift.numInterfaceGates := by
  unfold IPv6Multicast.assigned at assigned
  cases located : s.ift.ports[i]? with
  | none =>
      rw [located] at assigned
      cases assigned
  | some ie => exact (List.getElem?_eq_some_iff.mp located).1

/-- The datagram is sent and `post` holds of the interfaces its copies went out on. -/
def SentOn (s : IPv6Multicast) (datagram : IPv6Datagram) (post : List Nat → Prop) : Prop :=
  ∃ s' copies, s.endService datagram = .ok (s', copies) ∧ post (sentOn copies)

theorem sentOn_iff (multicast : datagram.destAddress.isMulticast = true) (post : List Nat → Prop) :
    s.SentOn datagram post ↔
      ∃ copies, s.sendLoop datagram (datagram.srcAddress ≠ .unspecified ∧ datagram.inputPort ≠ -1)
        (List.range s.ift.numInterfaceGates) = .ok copies ∧ post (sentOn copies) := by
  unfold SentOn endService
  rw [assert_pos multicast, ok_bind]
  constructor
  · rintro ⟨s', copies, sends, holds⟩
    obtain ⟨copies', sent, ends⟩ := bind_eq_ok.mp sends
    cases ends
    exact ⟨copies, sent, holds⟩
  · rintro ⟨copies, sent, holds⟩
    exact ⟨_, copies, bind_eq_ok.mpr ⟨copies, sent, rfl⟩, holds⟩

/-- Copies on all other interfaces with a source address, if no search for one reads past an empty vector. -/
theorem sentOn_all_iff (multicast : datagram.destAddress.isMulticast = true)
    (all : datagram.srcAddress = .unspecified ∨ datagram.inputPort = -1) (post : List Nat → Prop) :
    s.SentOn datagram post ↔
      (∀ i < s.ift.numInterfaceGates, (i : Int) ≠ datagram.inputPort → s.Answers datagram i) ∧
        post ((List.range s.ift.numInterfaceGates).filter fun i : Nat =>
          (i : Int) ≠ datagram.inputPort ∧ s.found datagram i = true) := by
  have mode : decide (datagram.srcAddress ≠ .unspecified ∧ datagram.inputPort ≠ -1) = false := by
    rw [decide_eq_false_iff_not]
    rintro ⟨specified, received⟩
    cases all with
    | inl none => exact specified none
    | inr local_ => exact received local_
  rw [sentOn_iff multicast, mode]
  constructor
  · rintro ⟨copies, sent, holds⟩
    have answers := sendLoop_all_answers sent
    obtain ⟨copies', sent', ports⟩ := sendLoop_all multicast _ answers
    cases sent.symm.trans sent'
    rw [ports] at holds
    exact ⟨fun i bound => answers i (List.mem_range.mpr bound), holds⟩
  · rintro ⟨answers, holds⟩
    obtain ⟨copies, sent, ports⟩ := sendLoop_all multicast (List.range s.ift.numInterfaceGates)
      fun i member => answers i (List.mem_range.mp member)
    rw [← ports] at holds
    exact ⟨copies, sent, holds⟩

theorem sentOn_first_iff (multicast : datagram.destAddress.isMulticast = true)
    (specified : datagram.srcAddress ≠ .unspecified) (received : datagram.inputPort ≠ -1) (post : List Nat → Prop) :
    s.SentOn datagram post ↔ post ((List.range s.ift.numInterfaceGates).find? fun i : Nat =>
      (i : Int) ≠ datagram.inputPort ∧ s.assigned datagram.srcAddress i = true).toList := by
  obtain ⟨copies, sent, ports⟩ := sendLoop_first (s := s) multicast specified (List.range s.ift.numInterfaceGates)
    fun i => List.mem_range.mp
  rw [sentOn_iff multicast, decide_eq_true ⟨specified, received⟩, ← ports]
  constructor
  · rintro ⟨copies', sent', holds⟩
    cases sent.symm.trans sent'
    exact holds
  · intro holds
    exact ⟨copies, sent, holds⟩

/-! ### The four cases -/

theorem rule_unsourced (multicast : datagram.destAddress.isMulticast = true) (here : datagram.inputPort = -1)
    (none : datagram.srcAddress = .unspecified) : s.SentOn datagram (s.Rule datagram) ↔ s.Suits datagram := by
  rw [sentOn_all_iff multicast (.inl none)]
  have other (i : Nat) : (i : Int) ≠ datagram.inputPort := by omega
  constructor
  · rintro ⟨answers, -⟩
    exact ⟨by omega, by omega, fun _ some => absurd none some, fun _ _ i bound => answers i bound (other i)⟩
  · intro suits
    refine ⟨fun i bound _ => suits.unsourced here none i bound, ⟨by omega, fun _ some => absurd none some, ?_⟩⟩
    intro _ _ i bound
    rw [count_filter_range bound]
    simp [other i]

theorem rule_sourced (multicast : datagram.destAddress.isMulticast = true) (here : datagram.inputPort = -1)
    (specified : datagram.srcAddress ≠ .unspecified) : s.SentOn datagram (s.Rule datagram) ↔ s.Suits datagram := by
  rw [sentOn_all_iff multicast (.inr here)]
  have other (i : Nat) : (i : Int) ≠ datagram.inputPort := by omega
  have everywhere : ((List.range s.ift.numInterfaceGates).filter fun i : Nat =>
      (i : Int) ≠ datagram.inputPort ∧ s.found datagram i = true) = List.range s.ift.numInterfaceGates := by
    rw [List.filter_eq_self]
    intro i _
    simp [other i, found_of_specified specified i]
  rw [everywhere]
  constructor
  · rintro ⟨-, rule⟩
    refine ⟨by omega, by omega, fun _ _ assigned => ?_, fun _ none => absurd none specified⟩
    obtain ⟨i, -, one⟩ := rule.sourced here specified assigned
    have length := congrArg List.length one
    simpa using length
  · intro suits
    refine ⟨fun i _ _ => answers_of_found (found_of_specified specified i), by omega, ?_,
      fun _ none => absurd none specified⟩
    rintro _ _ ⟨i, assigned⟩
    have single := suits.sourced here specified ⟨i, assigned⟩
    have bound := assigned_bound assigned
    have first : i = 0 := by omega
    subst first
    refine ⟨0, assigned, ?_⟩
    rw [single]
    rfl

theorem rule_anonymous {p : Nat} (multicast : datagram.destAddress.isMulticast = true)
    (bound : p < s.ift.numInterfaceGates) (received : datagram.inputPort = p)
    (none : datagram.srcAddress = .unspecified) : s.SentOn datagram (s.Rule datagram) ↔ s.Suits datagram := by
  rw [sentOn_all_iff multicast (.inl none)]
  constructor
  · rintro ⟨-, rule⟩
    refine ⟨fun _ _ _ some => absurd none some, ?_, by omega, by omega⟩
    intro q _ from_q _ i within apart
    have once := rule.received q (by omega) from_q i within
    rw [count_filter_range within, if_neg apart] at once
    by_contra missing
    simp [missing] at once
  · intro suits
    have all := suits.anonymous p bound received none
    refine ⟨fun i within apart => answers_of_found (all i within (by omega)), ⟨?_, by omega, by omega⟩⟩
    intro q _ from_q i within
    have same : q = p := by omega
    rw [count_filter_range within, same]
    by_cases incoming : i = p
    · rw [if_pos incoming, incoming, received]
      simp
    · have apart : (i : Int) ≠ p := by omega
      rw [if_neg incoming, received]
      simp [apart, all i within incoming]

theorem count_toList (one : Option Nat) (i : Nat) : one.toList.count i = if one = some i then 1 else 0 := by
  cases one with
  | none => rfl
  | some j =>
      rw [Option.toList_some, List.count_singleton]
      simp

theorem chosen {ports : List Nat} {k : Nat}
    (first : (ports.find? fun i : Nat =>
      (i : Int) ≠ datagram.inputPort ∧ s.assigned datagram.srcAddress i = true) = some k) :
    (k : Int) ≠ datagram.inputPort ∧ s.assigned datagram.srcAddress k = true := by
  simpa using List.find?_some first

theorem rule_relayed {p : Nat} (multicast : datagram.destAddress.isMulticast = true)
    (bound : p < s.ift.numInterfaceGates) (received : datagram.inputPort = p)
    (specified : datagram.srcAddress ≠ .unspecified) : s.SentOn datagram (s.Rule datagram) ↔ s.Suits datagram := by
  rw [sentOn_first_iff multicast specified (by omega)]
  generalize first : ((List.range s.ift.numInterfaceGates).find? fun i : Nat =>
    (i : Int) ≠ datagram.inputPort ∧ s.assigned datagram.srcAddress i = true) = one
  constructor
  · intro rule
    have is (q : Nat) (from_q : datagram.inputPort = q) (i : Nat) (within : i < s.ift.numInterfaceGates)
        (apart : i ≠ q) : one = some i := by
      have once := rule.received q (by omega) from_q i within
      rw [count_toList, if_neg apart] at once
      by_contra other
      rw [if_neg other] at once
      omega
    refine ⟨?_, fun _ _ _ none => absurd none specified, by omega, by omega⟩
    intro q _ from_q _ i within apart
    rw [is q from_q i within apart] at first
    refine ⟨(chosen first).2, fun j inside other => ?_⟩
    have same := (is q from_q j inside other).symm.trans (is q from_q i within apart)
    exact Option.some.inj same
  · intro suits
    have only := suits.relayed p bound received specified
    refine ⟨?_, by omega, by omega⟩
    intro q _ from_q i within
    have same : q = p := by omega
    rw [count_toList, same]
    by_cases incoming : i = p
    · rw [if_pos incoming, if_neg]
      intro same_port
      rw [same_port] at first
      have other := (chosen first).1
      omega
    · rw [if_neg incoming, if_pos]
      cases one with
      | none =>
          have missing := List.find?_eq_none.mp first i (List.mem_range.mpr within)
          have apart : (i : Int) ≠ datagram.inputPort := by omega
          simp [apart, (only i within incoming).1] at missing
      | some k =>
          have inside := List.mem_range.mp (List.mem_of_find?_eq_some first)
          have other := (chosen first).1
          rw [(only i within incoming).2 k inside (by omega)]

/-- For a datagram received on an interface, or sent by the node itself -/
theorem endService_rule_iff (s : IPv6Multicast) {datagram : IPv6Datagram}
    (multicast : datagram.destAddress.isMulticast = true)
    (port : datagram.inputPort = -1 ∨ ∃ p < s.ift.numInterfaceGates, datagram.inputPort = p) :
    s.SentOn datagram (s.Rule datagram) ↔ s.Suits datagram := by
  by_cases none : datagram.srcAddress = .unspecified
  · rcases port with here | ⟨p, bound, received⟩
    · exact rule_unsourced multicast here none
    · exact rule_anonymous multicast bound received none
  · rcases port with here | ⟨p, bound, received⟩
    · exact rule_sourced multicast here none
    · exact rule_relayed multicast bound received none

def twoLinks : IPv6Multicast where
  ift := ⟨[⟨[{ IPv6Address.host ⟨0xFE800000, 0, 0, 1⟩ with
      storedLifetime := validLifetimeInfinity, preferredLifetime := validLifetimeInfinity, updated := false }], []⟩,
    ⟨[{ IPv6Address.host ⟨0xFE800000, 0, 0, 2⟩ with
      storedLifetime := validLifetimeInfinity, preferredLifetime := validLifetimeInfinity, updated := false }], []⟩],
    lo0⟩
  odad := false
  defaultRouter := false
  ctrIP6InMcastPkts := 0

/-- Sent by the node with the address of its first interface -/
def solicitation : IPv6Datagram := IPv6Datagram.create ⟨0xFE800000, 0, 0, 1⟩ ⟨0xFF020000, 0, 0, 2⟩

theorem endService_rule_iff_solicitation :
    twoLinks.SentOn solicitation (twoLinks.Rule solicitation) ↔ twoLinks.Suits solicitation :=
  endService_rule_iff twoLinks (by decide) (.inl rfl)

/-- A copy goes out on both interfaces, and nothing of the same datagram is passed on when it came in on one. -/
theorem solicitation_sent_twice :
    solicitation.inputPort = -1 ∧ twoLinks.assigned solicitation.srcAddress 0 = true ∧
      twoLinks.assigned solicitation.srcAddress 1 = false ∧
      (twoLinks.endService solicitation).map (fun r => sentOn r.2) = .ok [0, 1] ∧
      (twoLinks.endService { solicitation with inputPort := 0 }).map (fun r => sentOn r.2) = .ok [] := by
  decide

end IPv6Multicast

end IPv6Suite
