import IPv6Suite.IPv6Forward

namespace IPv6Suite

open Lib

namespace ForwardResult

def onwards (r : ForwardResult) : List IPv6Datagram := r.sent.filterMap (·.onward)

def hopLimits (r : ForwardResult) : List (BitVec 16) := r.onwards.map (·.hopLimit)

@[simp] theorem hopLimits_done : done.hopLimits = [] := rfl

@[simp] theorem hopLimits_failed (fault : Fault) : (failed fault).hopLimits = [] := rfl

theorem hopLimits_send_onward {out : ForwardOutput} {datagram : IPv6Datagram} (next : ForwardResult)
    (onward : out.onward = some datagram) : (send out next).hopLimits = datagram.hopLimit :: next.hopLimits := by
  unfold hopLimits onwards send
  rw [List.filterMap_cons_some onward, List.map_cons]

theorem hopLimits_send_none {out : ForwardOutput} (next : ForwardResult)
    (none : out.onward = none) : (send out next).hopLimits = next.hopLimits := by
  unfold hopLimits onwards send
  rw [List.filterMap_cons_none none]

end ForwardResult

namespace ForwardNode

open ForwardResult

/-- The next hop that comes with the datagram, or else the one that is determined. -/
def addrResInfo (node : ForwardNode) (datagram : IPv6Datagram) (controlInfo : Option AddrResInfo) :
    AddrResInfo :=
  controlInfo.getD (node.conceptualSending datagram .create).1

/-- A datagram without a unicast source, or one to be redirected, goes no further. -/
def unsendable (node : ForwardNode) (datagram : IPv6Datagram) (info : AddrResInfo) : Bool :=
  datagram.srcAddress = .unspecified || datagram.srcAddress.isMulticast ||
    node.isRouter && datagram.inputPort ≠ -1 && (info.ifIndex : Int) = datagram.inputPort &&
      datagram.destAddress = info.nextHop

/-- Whether a unicast datagram is not sent, whatever its hop limit is. -/
def holdsBack (node : ForwardNode) (datagram : IPv6Datagram) (info : AddrResInfo) : Bool :=
  if info.status = -1 ∨ info.status = -2 then node.odadHolds datagram
  else info.ifIndex ≤ node.numInterfaceGates && node.unsendable datagram info

def withholds (node : ForwardNode) (datagram : IPv6Datagram) (controlInfo : Option AddrResInfo) :
    Bool :=
  ! datagram.destAddress.isMulticast &&
    node.holdsBack datagram (node.addrResInfo datagram controlInfo)

variable {node : ForwardNode}

theorem sendRedirect_onward {cds : IPv6CDS} {dgram : IPv6Datagram} {nextHop : Ipv6Addr} {out : ForwardOutput}
    (redirected : node.sendRedirect cds dgram nextHop = .ok (some out)) : out.onward = none := by
  unfold sendRedirect at redirected
  split at redirected
  · cases redirected
  · split at redirected
    · obtain ⟨_, _, redirected⟩ := bind_eq_ok.mp redirected
      obtain ⟨_, _, redirected⟩ := bind_eq_ok.mp redirected
      obtain ⟨_, _, redirected⟩ := bind_eq_ok.mp redirected
      split at redirected
      · cases redirected
      · cases redirected
        rfl
    · cases redirected

variable {datagram : IPv6Datagram}

theorem unsendable_iff {info : AddrResInfo} : node.unsendable datagram info = true ↔
      ¬ (datagram.srcAddress ≠ .unspecified ∧ datagram.srcAddress.isMulticast = false) ∨
        node.isRouter ∧ datagram.inputPort ≠ -1 ∧ (info.ifIndex : Int) = datagram.inputPort ∧
          datagram.destAddress = info.nextHop := by
  unfold unsendable
  simp only [Bool.or_eq_true, Bool.and_eq_true, decide_eq_true_eq, and_assoc, not_and_or, not_not,
    ne_eq, Bool.not_eq_false]

theorem sendReachable_hopLimits (node : ForwardNode) (cds : IPv6CDS) (datagram : IPv6Datagram)
    (info : AddrResInfo) :
    (node.sendReachable cds datagram info).hopLimits =
      if node.unsendable datagram info then [] else [datagram.hopLimit] := by
  simp only [unsendable_iff]
  unfold sendReachable
  by_cases source : datagram.srcAddress ≠ .unspecified ∧ datagram.srcAddress.isMulticast = false
  · rw [if_neg (not_not_intro source)]
    dsimp only
    split
    · rename_i returns
      rw [if_pos (Or.inr returns)]
      split
      · rfl
      · rename_i redirected
        exact hopLimits_send_none _ (sendRedirect_onward redirected)
      · rfl
    · rename_i goesOn
      rw [if_neg (not_or.mpr ⟨not_not_intro source, goesOn⟩)]
      rfl
  · rw [if_pos source, if_pos (Or.inl source)]
    rfl

theorem sendUnicast_hopLimits (node : ForwardNode) (datagram : IPv6Datagram) (info : AddrResInfo)
    (cds : IPv6CDS) :
    (node.sendUnicast datagram info cds).hopLimits =
      if node.holdsBack datagram info then [] else [datagram.hopLimit] := by
  unfold sendUnicast holdsBack
  split
  · split <;> rfl
  · by_cases tunnel : node.numInterfaceGates < info.ifIndex
    · simp only [if_pos tunnel, Nat.not_le.mpr tunnel, decide_false, Bool.false_and,
        Bool.false_eq_true, if_false]
      rfl
    · simp only [if_neg tunnel, Nat.not_lt.mp tunnel, decide_true, Bool.true_and,
        sendReachable_hopLimits]

theorem sendOnwards_hopLimits (node : ForwardNode) (datagram : IPv6Datagram)
    (controlInfo : Option AddrResInfo) :
    (node.sendOnwards datagram controlInfo).hopLimits =
      if node.withholds datagram controlInfo then [] else [datagram.hopLimit] := by
  unfold sendOnwards withholds
  cases datagram.destAddress.isMulticast with
  | true => rfl
  | false =>
      rw [if_neg Bool.false_ne_true, Bool.not_false, Bool.true_and]
      cases controlInfo with
      | some info => exact sendUnicast_hopLimits node datagram info node.cds
      | none => exact sendUnicast_hopLimits node datagram _ _

theorem forward_hopLimits (controlInfo : Option AddrResInfo) (received : datagram.inputPort ≠ -1) :
    (node.forward datagram controlInfo).hopLimits =
      if node.discards datagram ∨ datagram.hopLimit - 1 = 0 ∨ node.withholds datagram controlInfo
      then [] else [datagram.hopLimit - 1] := by
  unfold forward processReceived
  rw [if_pos received]
  by_cases discarded : node.discards datagram = true
  · simp only [discarded, if_true, true_or]
    rfl
  · by_cases expired : datagram.hopLimit - 1 = 0
    · simp only [discarded, expired, Bool.false_eq_true, if_false, if_true, true_or, or_true]
      rfl
    · simp only [discarded, expired, Bool.false_eq_true, if_false, false_or, sendOnwards_hopLimits]
      rfl

variable {controlInfo : Option AddrResInfo}

theorem endServiceRemote_tunnel (tunnel : node.tunnelByDestEntry datagram ≠ none) :
    datagram.hopLimit ∈ (node.endServiceRemote datagram controlInfo).hopLimits := by
  obtain ⟨ifIndex, tunnel⟩ := Option.ne_none_iff_exists'.mp tunnel
  unfold endServiceRemote
  rw [tunnel]
  dsimp only
  rw [hopLimits_send_onward _ rfl]
  exact List.mem_cons_self

/-- A datagram that came over a link and is not for this node. -/
structure Transit (node : ForwardNode) (datagram : IPv6Datagram) : Prop where
  link : 0 ≤ datagram.inputPort
  port : datagram.inputPort < node.numInterfaceGates
  remote : node.localDeliver datagram.destAddress = false

theorem Transit.endService_eq (transit : node.Transit datagram) (controlInfo : Option AddrResInfo) :
    node.endService datagram controlInfo = node.endServiceRemote datagram controlInfo := by
  unfold endService
  rw [if_neg (not_not_intro transit.port), transit.remote]
  rfl

/-- What is sent onwards is alive and has used up a hop. -/
def Decreases (node : ForwardNode) (datagram : IPv6Datagram) (controlInfo : Option AddrResInfo) :
    Prop :=
  ∀ sent ∈ (node.endService datagram controlInfo).onwards,
    1 ≤ sent.hopLimit.toInt ∧ sent.hopLimit.toInt < datagram.hopLimit.toInt

/-- No destination entry leads to a tunnel, and a datagram without hops is not sent. -/
def LimitsHops (node : ForwardNode) (datagram : IPv6Datagram) (controlInfo : Option AddrResInfo) :
    Prop :=
  node.tunnelByDestEntry datagram = none ∧
    (1 ≤ datagram.hopLimit.toInt ∨ node.discards datagram = true ∨
      node.withholds datagram controlInfo)

theorem decreases_iff_hopLimits : node.Decreases datagram controlInfo ↔
      ∀ hopLimit ∈ (node.endService datagram controlInfo).hopLimits,
        1 ≤ hopLimit.toInt ∧ hopLimit.toInt < datagram.hopLimit.toInt := by
  unfold Decreases hopLimits
  rw [List.forall_mem_map]

theorem decrement_iff {hopLimit : BitVec 16} (alive : hopLimit - 1 ≠ 0) :
    1 ≤ (hopLimit - 1).toInt ∧ (hopLimit - 1).toInt < hopLimit.toInt ↔ 1 ≤ hopLimit.toInt := by
  have bound := hopLimit.isLt
  have other : hopLimit.toNat ≠ 1 := by
    intro one
    exact alive (by bv_omega)
  simp only [BitVec.toInt_eq_toNat_cond, BitVec.toNat_sub, BitVec.reduceToNat]
  split <;> split <;> omega

theorem decreases_iff_limitsHops (transit : node.Transit datagram) :
    node.Decreases datagram controlInfo ↔ node.LimitsHops datagram controlInfo := by
  have received : datagram.inputPort ≠ -1 := by
    have link := transit.link
    omega
  rw [decreases_iff_hopLimits, transit.endService_eq]
  unfold LimitsHops
  by_cases tunnel : node.tunnelByDestEntry datagram = none
  · have remote : node.endServiceRemote datagram controlInfo = node.forward datagram controlInfo := by
      unfold endServiceRemote
      rw [tunnel]
    rw [remote, forward_hopLimits controlInfo received]
    by_cases alive : datagram.hopLimit - 1 = 0
    · have one : datagram.hopLimit = 1 := by bv_omega
      have positive : 1 ≤ datagram.hopLimit.toInt := by
        rw [one]
        decide
      simp only [alive, tunnel, positive, true_or, or_true, and_true, if_true, List.not_mem_nil,
        false_imp_iff, implies_true]
    · simp only [alive, tunnel, false_or, true_and]
      split
      · rename_i silent
        simp only [silent, or_true, List.not_mem_nil, false_imp_iff, implies_true]
      · rename_i sends
        simp only [sends, or_false, List.mem_singleton, forall_eq, decrement_iff alive]
  · constructor
    · intro decreases
      have sent := (decreases _ (endServiceRemote_tunnel tunnel)).2
      omega
    · exact fun limits => absurd limits.1 tunnel

/-- A datagram forwarded by one node after another. On the way to the next node everything
but its hop limit may change. -/
inductive Travels : IPv6Datagram → List IPv6Datagram → Prop where
  | stop (datagram : IPv6Datagram) : Travels datagram []
  | hop {node : ForwardNode} {datagram sent next : IPv6Datagram} {controlInfo : Option AddrResInfo}
      {path : List IPv6Datagram} (transit : node.Transit datagram)
      (limits : node.LimitsHops datagram controlInfo)
      (onwards : sent ∈ (node.endService datagram controlInfo).onwards)
      (arrives : next.hopLimit = sent.hopLimit) (travels : Travels next path) :
      Travels datagram (next :: path)

theorem Travels.length_le {path : List IPv6Datagram}
    (travels : Travels datagram path) : path.length ≤ datagram.hopLimit.toInt.toNat := by
  induction travels with
  | stop datagram => exact Nat.zero_le _
  | hop transit limits onwards arrives travels ih =>
      have smaller := (decreases_iff_limitsHops transit).mpr limits _ onwards
      rw [arrives] at ih
      rw [List.length_cons]
      omega

/-- The hop limit decreases at exactly the nodes that limit hops, and no datagram travels
through such nodes for ever. -/
theorem hop_limit_decreases_iff (node : ForwardNode) (datagram : IPv6Datagram)
    (controlInfo : Option AddrResInfo) (transit : node.Transit datagram) :
    (node.Decreases datagram controlInfo ↔ node.LimitsHops datagram controlInfo) ∧
      ∀ path, Travels datagram path → path.length ≤ datagram.hopLimit.toInt.toNat :=
  ⟨decreases_iff_limitsHops transit, fun _ travels => travels.length_le⟩

/-- A router on two links that sends `2001::/64` to the neighbour `fe80::2` on the second. -/
theorem hop_limit_decreases_once :
    let node : ForwardNode :=
      { cds :=
          { IPv6CDS.empty with
            held := [(1, ⟨⟨0xFE800000, 0, 0, 2⟩, "00:02", 1, true, .reachable⟩)]
            destCache := (∅ : StdMap _ _ _).insert ⟨⟨0x20010000, 0, 0, 0⟩, 64⟩ ⟨some 1, 0⟩ }
        interfaces := [⟨[], []⟩, ⟨[], []⟩]
        multicastGroup := []
        isRouter := true
        routeSitePackets := false
        odad := false
        careOfAddr := none }
    let datagram : IPv6Datagram :=
      { IPv6Datagram.create ⟨0x20020000, 0, 0, 1⟩ ⟨0x20010000, 0, 0, 1⟩ with
        hopLimit := 64
        inputPort := 0 }
    (node.endService datagram none).onwards.map (·.hopLimit) = [63] ∧
      node.Decreases datagram none := by
  intro node datagram
  have transit : node.Transit datagram := ⟨by decide, by decide, by decide⟩
  refine ⟨by decide, (hop_limit_decreases_iff node datagram none transit).1.mpr ⟨by decide, .inl ?_⟩⟩
  decide

/-- A datagram that the destination cache leads to the first tunnel keeps its hop limit, and
one that arrives with hop limit 0 is sent on with -1. -/
theorem tunnelled_datagram_keeps_hop_limit :
    let node : ForwardNode :=
      { cds :=
          { IPv6CDS.empty with
            held := [(1, ⟨⟨0x20030000, 0, 0, 3⟩, "", uintMax - 3, false, .reachable⟩),
              (2, ⟨⟨0xFE800000, 0, 0, 2⟩, "00:02", 1, true, .reachable⟩)]
            destCache := ((∅ : StdMap _ _ _).insert (IPv6Address.host ⟨0x20010000, 0, 0, 1⟩)
              ⟨some 1, 0⟩).insert (IPv6Address.host ⟨0x20010000, 0, 0, 2⟩) ⟨some 2, 0⟩ }
        interfaces := [⟨[], []⟩, ⟨[], []⟩]
        multicastGroup := []
        isRouter := true
        routeSitePackets := false
        odad := false
        careOfAddr := none }
    let tunnelled : IPv6Datagram :=
      { IPv6Datagram.create ⟨0x20020000, 0, 0, 1⟩ ⟨0x20010000, 0, 0, 1⟩ with
        hopLimit := 64
        inputPort := 0 }
    let spent : IPv6Datagram :=
      { IPv6Datagram.create ⟨0x20020000, 0, 0, 1⟩ ⟨0x20010000, 0, 0, 2⟩ with
        hopLimit := 0
        inputPort := 0 }
    (node.Transit tunnelled ∧ ¬ node.Decreases tunnelled none ∧
      (node.endService tunnelled none).hopLimits = [64]) ∧
      node.Transit spent ∧ ¬ node.Decreases spent none ∧
        (node.endService spent none).hopLimits.map (·.toInt) = [-1] := by
  intro node tunnelled spent
  have first : (node.endService tunnelled none).hopLimits = [64] := by decide
  have second : (node.endService spent none).hopLimits = [-1] := by decide
  refine ⟨⟨⟨by decide, by decide, by decide⟩, ?_, first⟩, ⟨by decide, by decide, by decide⟩, ?_, ?_⟩
  · intro decreases
    have sent := decreases_iff_hopLimits.mp decreases 64 (first ▸ List.mem_singleton_self _)
    exact absurd sent.2 (Int.lt_irrefl _)
  · intro decreases
    have sent := decreases_iff_hopLimits.mp decreases (-1) (second ▸ List.mem_singleton_self _)
    exact absurd sent.1 (by decide +kernel)
  · rw [second]
    decide +kernel

end ForwardNode

end IPv6Suite
