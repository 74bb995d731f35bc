import IPv6Suite.ARPResolution

namespace IPv6Suite

open Lib

instance {α : Type} (r : Resolution α) : Decidable r.Pending :=
  match found : r.entry with
  | none => isFalse fun ⟨_, stored, _⟩ => by cases found.symm.trans stored
  | some entry =>
      if pending : entry.pending = true then isTrue ⟨entry, found, pending⟩
      else isFalse fun ⟨_, stored, pending'⟩ => by
        cases found.symm.trans stored
        exact pending pending'

/-- The module with the packets for broadcast interfaces that have arrived, those sent and those dropped, the MAC
address last learned for each address, and how often it was asked for since its resolution began -/
structure ARPHistory (α : Type) where
  arp : ARP α
  clock : SimTime
  arrived : List (OutboundPacket α)
  sent : List (SentPacket α)
  dropped : List (OutboundPacket α)
  learned : IPAddress → Option MACAddress
  asked : IPAddress → Nat

namespace ARPHistory

variable {α : Type}

inductive Event (α : Type) where
  | outbound (env : ARPSurroundings) (now : SimTime) (msg : OutboundPacket α)
  | arpPacket (env : ARPSurroundings) (now : SimTime) (arp : ARPPacket) (inputPort : Int)
  | timeout (env : ARPSurroundings) (now : SimTime) (address : IPAddress)

namespace Event

def now : Event α → SimTime
  | outbound _ now _ | arpPacket _ now _ _ | timeout _ now _ => now

def arrival : Event α → List (OutboundPacket α)
  | outbound env _ msg => if (env.interfaceByPortNo msg.outputPort).any ARPInterface.isBroadcast then [msg] else []
  | arpPacket .. | timeout .. => []

/-- What is learned for an address: that of the sender, if the address is known or the packet is for this host -/
def learns (a : ARP α) (addr : IPAddress) : Event α → Option MACAddress
  | arpPacket env _ arp inputPort =>
      if arp.srcIPAddress = addr ∧
          ((a.resolution addr).entry.isSome = true ∨ a.addressRecognized env arp.destIPAddress inputPort = true) then
        some arp.srcMACAddress
      else none
  | outbound .. | timeout .. => none

end Event

def start (arp : ARP α) : ARPHistory α := ⟨arp, 0, [], [], [], fun _ => none, fun _ => 0⟩

variable [DecidableEq α]

def handle (a : ARP α) : Event α → Exec (ARP α × ARPOutput α)
  | .outbound env now msg => a.processOutboundPacket env now msg
  | .arpPacket env now arp inputPort => a.processARPPacket env now arp inputPort
  | .timeout env now address => a.requestTimedOut env now address

omit [DecidableEq α] in
/-- Only packets for broadcast interfaces are recorded, which are those sent to a MAC address. -/
def next (h : ARPHistory α) (e : Event α) (arp : ARP α) (out : ARPOutput α) : ARPHistory α where
  arp := arp
  clock := e.now
  arrived := h.arrived ++ e.arrival
  sent := h.sent ++ out.packets.filter (·.dest.isSome)
  dropped := h.dropped ++ out.deleted
  learned addr := (e.learns h.arp addr).or (h.learned addr)
  asked addr := if (arp.resolution addr).Pending then
      (if (h.arp.resolution addr).Pending then h.asked addr else 0) + out.requests addr
    else 0

def outcome (h : ARPHistory α) (e : Event α) : Exec (ARPHistory α × ARPOutput α) :=
  (handle h.arp e).map fun after => (h.next e after.1 after.2, after.2)

def step (h : ARPHistory α) (e : Event α) : Exec (ARPHistory α) := (h.outcome e).map Prod.fst

omit [DecidableEq α] in
/-- No timer is passed over, and one fires when it is due. -/
def Admits (h : ARPHistory α) (e : Event α) : Prop :=
  h.clock ≤ e.now ∧ (∀ message ∈ h.arp.timers, e.now ≤ message.2) ∧
    match e with
    | .timeout _ now address => (address, now) ∈ h.arp.timers
    | .outbound .. | .arpPacket .. => True

instance (h : ARPHistory α) : (e : Event α) → Decidable (h.Admits e)
  | .timeout .. | .outbound .. | .arpPacket .. => inferInstanceAs (Decidable (_ ∧ _ ∧ _))

/-- The MAC address for a next hop: a group has that of the broadcast, all others what was last learned. -/
def macOf (h : ARPHistory α) (addr : IPAddress) : Option MACAddress :=
  if addr.isMulticast then some ARP.broadcastAddress else h.learned addr

/-- What holds in every state: each packet was sent, dropped or waits in the queue, those of a next hop are sent in
the order of their arrival, an entry is pending exactly when its timer is scheduled, which is then the only one, and
the queue has the packets of the pending entries. -/
structure Orderly (h : ARPHistory α) : Prop where
  once : h.arrived.Perm (h.sent.map SentPacket.msg ++ h.dropped ++ h.arp.pendingQueue)
  order : ∀ addr, (((h.sent.map SentPacket.msg) ++ h.arp.pendingQueue).filter (·.nextHop = addr)).Sublist
    (h.arrived.filter (·.nextHop = addr))
  pending : ∀ addr, (h.arp.resolution addr).Pending ↔ ∃ time, (addr, time) ∈ h.arp.timers
  one : (h.arp.timers.map Prod.fst).Nodup
  queue : ∀ addr, h.arp.pendingQueue.filter (·.nextHop = addr) =
    if (h.arp.resolution addr).Pending then (h.arp.resolution addr).waiting else []

/-- What a step does: packets go out on the ports of their routing decisions to the MAC addresses of their next hops,
and are dropped only when the next hop has been asked for as often as is configured. -/
structure Kept (h : ARPHistory α) (after : ARPHistory α × ARPOutput α) : Prop where
  port : ∀ p ∈ after.2.packets, p.dest.isSome = true → p.outputPort = p.msg.outputPort
  mac : ∀ p ∈ after.2.packets, p.dest.isSome = true → p.dest = after.1.macOf p.msg.nextHop
  drops : ∀ msg ∈ after.2.deleted, (h.asked msg.nextHop : Int) = max 1 h.arp.retryCount

/-- All packets that wait for the sender of an ARP packet have the output port of its entry. -/
def Sound (h : ARPHistory α) : Event α → Prop
  | .arpPacket _ _ arp _ => ∀ entry ∈ (h.arp.resolution arp.srcIPAddress).entry, ∀ msg ∈ entry.pendingPackets,
      msg.outputPort = entry.outputPort
  | .outbound .. | .timeout .. => True

/-- What holds of each address in every state -/
structure Good (h : ARPHistory α) (addr : IPAddress) : Prop where
  sane : (h.arp.resolution addr).Sane h.arp.retryCount addr.isMulticast
  mac : ∀ entry, (h.arp.resolution addr).entry = some entry → entry.pending = false →
    h.learned addr = some entry.macAddress
  asked : ∀ entry, (h.arp.resolution addr).entry = some entry → entry.pending = true →
    (h.asked addr : Int) = entry.numRetries + 1
  unasked : ¬ (h.arp.resolution addr).Pending → h.asked addr = 0
  order : ((h.sent.map SentPacket.msg).filter (·.nextHop = addr) ++ (h.arp.resolution addr).waiting).Sublist
    (h.arrived.filter (·.nextHop = addr))
  once : (h.arrived.filter (·.nextHop = addr)).Perm ((h.sent.map SentPacket.msg).filter (·.nextHop = addr) ++
    h.dropped.filter (·.nextHop = addr) ++ (h.arp.resolution addr).waiting)

variable {h : ARPHistory α} {e : Event α} {arp : ARP α} {out : ARPOutput α} {k : IPAddress}

omit [DecidableEq α]

theorem filter_own {β : Type} {l : List β} {f : β → IPAddress} (mine : ∀ b ∈ l, f b = k) : l.filter (f · = k) = l :=
  List.filter_eq_self.mpr fun b mem => decide_eq_true (mine b mem)

theorem filter_beside {β : Type} {l : List β} {f : β → IPAddress} {other : IPAddress} (mine : ∀ b ∈ l, f b = k)
    (apart : other ≠ k) : l.filter (f · = other) = [] :=
  List.filter_eq_nil_iff.mpr fun b mem same => apart ((of_decide_eq_true same).symm.trans (mine b mem))

/-- A step concerns the address `k` alone. -/
structure Concerns (h : ARPHistory α) (e : Event α) (arp : ARP α) (out : ARPOutput α) (k : IPAddress) : Prop where
  affects : ARP.Affects k h.arp arp
  arrival : ∀ msg ∈ e.arrival, msg.nextHop = k
  sent : ∀ msg ∈ (out.packets.filter (·.dest.isSome)).map SentPacket.msg, msg.nextHop = k
  deleted : ∀ msg ∈ out.deleted, msg.nextHop = k
  learns : ∀ addr, addr ≠ k → e.learns h.arp addr = none
  requests : ∀ addr, addr ≠ k → out.requests addr = 0

theorem good_beside (good : ∀ addr, h.Good addr) (concerns : h.Concerns e arp out k) {other : IPAddress}
    (apart : other ≠ k) : (h.next e arp out).Good other := by
  have same : (h.next e arp out).arp.resolution other = h.arp.resolution other := concerns.affects.others other apart
  have before := good other
  have asked : (h.next e arp out).asked other = h.asked other := by
    change (if (arp.resolution other).Pending then _ + out.requests other else 0) = h.asked other
    rw [concerns.affects.others other apart, concerns.requests other apart]
    by_cases pending : (h.arp.resolution other).Pending
    · rw [if_pos pending, if_pos pending, Nat.add_zero]
    · rw [if_neg pending, before.unasked pending]
  have learned : (h.next e arp out).learned other = h.learned other := by
    change (e.learns h.arp other).or (h.learned other) = h.learned other
    rw [concerns.learns other apart, Option.none_or]
  have arrived : (h.next e arp out).arrived.filter (·.nextHop = other) = h.arrived.filter (·.nextHop = other) := by
    change (h.arrived ++ e.arrival).filter _ = _
    rw [List.filter_append, filter_beside concerns.arrival apart, List.append_nil]
  have sent : ((h.next e arp out).sent.map SentPacket.msg).filter (·.nextHop = other) =
      (h.sent.map SentPacket.msg).filter (·.nextHop = other) := by
    change ((h.sent ++ out.packets.filter (·.dest.isSome)).map SentPacket.msg).filter _ = _
    rw [List.map_append, List.filter_append, filter_beside concerns.sent apart, List.append_nil]
  have dropped : (h.next e arp out).dropped.filter (·.nextHop = other) = h.dropped.filter (·.nextHop = other) := by
    change (h.dropped ++ out.deleted).filter _ = _
    rw [List.filter_append, filter_beside concerns.deleted apart, List.append_nil]
  constructor
  · rw [same, show (h.next e arp out).arp.retryCount = h.arp.retryCount from concerns.affects.retryCount]
    exact before.sane
  · rw [same, learned]
    exact before.mac
  · rw [same, asked]
    exact before.asked
  · rw [same, asked]
    exact before.unasked
  · rw [same, sent, arrived]
    exact before.order
  · rw [same, sent, arrived, dropped]
    exact before.once

theorem logs_own (good : h.Good k) (concerns : h.Concerns e arp out k)
    (moves : (h.arp.resolution k).waiting ++ e.arrival =
      (out.packets.filter (·.dest.isSome)).map SentPacket.msg ++ out.deleted ++ (arp.resolution k).waiting) :
    (((h.next e arp out).sent.map SentPacket.msg).filter (·.nextHop = k) ++ (arp.resolution k).waiting).Sublist
        ((h.next e arp out).arrived.filter (·.nextHop = k)) ∧
      ((h.next e arp out).arrived.filter (·.nextHop = k)).Perm
        (((h.next e arp out).sent.map SentPacket.msg).filter (·.nextHop = k) ++
          (h.next e arp out).dropped.filter (·.nextHop = k) ++ (arp.resolution k).waiting) := by
  have arrived : (h.next e arp out).arrived.filter (·.nextHop = k) = h.arrived.filter (·.nextHop = k) ++ e.arrival := by
    change (h.arrived ++ e.arrival).filter _ = _
    rw [List.filter_append, filter_own concerns.arrival]
  have sent : ((h.next e arp out).sent.map SentPacket.msg).filter (·.nextHop = k) =
      (h.sent.map SentPacket.msg).filter (·.nextHop = k) ++ (out.packets.filter (·.dest.isSome)).map SentPacket.msg := by
    change ((h.sent ++ out.packets.filter (·.dest.isSome)).map SentPacket.msg).filter _ = _
    rw [List.map_append, List.filter_append, filter_own concerns.sent]
  have dropped : (h.next e arp out).dropped.filter (·.nextHop = k) =
      h.dropped.filter (·.nextHop = k) ++ out.deleted := by
    change (h.dropped ++ out.deleted).filter _ = _
    rw [List.filter_append, filter_own concerns.deleted]
  rw [arrived, sent, dropped]
  generalize (out.packets.filter (·.dest.isSome)).map SentPacket.msg = leaves at moves ⊢
  constructor
  · have kept := good.order.append_right e.arrival
    rw [List.append_assoc, moves] at kept
    refine List.Sublist.trans ?_ kept
    rw [List.append_assoc, List.append_assoc]
    exact (List.Sublist.append_left (List.sublist_append_right ..) _).append_left _
  · have all := good.once.append_right e.arrival
    rw [List.append_assoc, moves] at all
    refine all.trans ?_
    generalize (h.sent.map SentPacket.msg).filter (·.nextHop = k) = sentBefore
    generalize h.dropped.filter (·.nextHop = k) = droppedBefore
    simp only [List.append_assoc]
    refine List.Perm.append_left sentBefore ?_
    have swap : (droppedBefore ++ leaves).Perm (leaves ++ droppedBefore) := List.perm_append_comm
    have swapped := swap.append_right (out.deleted ++ (arp.resolution k).waiting)
    simp only [List.append_assoc] at swapped
    exact swapped

theorem good_own (good : h.Good k) (concerns : h.Concerns e arp out k)
    (moves : (h.arp.resolution k).waiting ++ e.arrival =
      (out.packets.filter (·.dest.isSome)).map SentPacket.msg ++ out.deleted ++ (arp.resolution k).waiting)
    (sane : (arp.resolution k).Sane h.arp.retryCount k.isMulticast)
    (mac : ∀ entry, (arp.resolution k).entry = some entry → entry.pending = false →
      (e.learns h.arp k).or (h.learned k) = some entry.macAddress)
    (asked : ∀ entry, (arp.resolution k).entry = some entry → entry.pending = true →
      (((if (h.arp.resolution k).Pending then h.asked k else 0) + out.requests k : Nat) : Int) = entry.numRetries + 1) :
    (h.next e arp out).Good k := by
  have logs := logs_own good concerns moves
  refine ⟨?_, mac, fun entry stored pending => ?_, fun free => if_neg free, logs.1, logs.2⟩
  · rw [show (h.next e arp out).arp.retryCount = h.arp.retryCount from concerns.affects.retryCount]
    exact sane
  · have now : (arp.resolution k).Pending := ⟨entry, stored, pending⟩
    rw [← asked entry stored pending]
    exact congrArg Nat.cast (if_pos now)

theorem good_of_same (good : h.Good k) (concerns : h.Concerns e h.arp out k) (silent : out.requests k = 0)
    (unlearned : e.learns h.arp k = none) (moves : (h.arp.resolution k).waiting ++ e.arrival =
      (out.packets.filter (·.dest.isSome)).map SentPacket.msg ++ out.deleted ++ (h.arp.resolution k).waiting) :
    (h.next e h.arp out).Good k := by
  refine good_own good concerns moves good.sane (fun entry stored known => ?_) fun entry stored pending => ?_
  · rw [unlearned, Option.none_or]
    exact good.mac entry stored known
  · have now : (h.arp.resolution k).Pending := ⟨entry, stored, pending⟩
    rw [if_pos now, silent, Nat.add_zero]
    exact good.asked entry stored pending

variable {r : Resolution α}

theorem waiting_of_pending {entry : ARPCacheEntry α} (stored : r.entry = some entry) :
    r.waiting = entry.pendingPackets := by
  unfold Resolution.waiting
  rw [stored]

theorem not_pending_of_known {entry : ARPCacheEntry α} (stored : r.entry = some entry)
    (known : entry.pending = false) : ¬ r.Pending := by
  rintro ⟨entry', stored', pending⟩
  cases stored.symm.trans stored'
  rw [known] at pending
  cases pending

theorem not_pending_of_multicast {retryCount : Int} (sane : r.Sane retryCount true) : ¬ r.Pending := by
  rintro ⟨entry, stored, pending⟩
  cases (sane.busy entry stored pending).1

theorem mem_waiting_nextHop (good : h.Good k) : ∀ msg ∈ (h.arp.resolution k).waiting, msg.nextHop = k :=
  fun msg mem => by
    rw [← good.sane.queue] at mem
    exact of_decide_eq_true (List.mem_filter.mp mem).2

variable {env : ARPSurroundings} {now : SimTime} {a' : ARP α}

theorem good_outbound {msg : OutboundPacket α}
    (good : h.Good msg.nextHop) (broadcast : (Event.outbound env now msg).arrival = [msg])
    (outbound : ARP.Outbound h.arp msg a' out) : h.Concerns (.outbound env now msg) a' out msg.nextHop ∧
      (h.next (.outbound env now msg) a' out).Good msg.nextHop := by
  have arrival : ∀ other ∈ (Event.outbound env now msg).arrival, other.nextHop = msg.nextHop := fun other mem => by
    rw [broadcast] at mem
    rw [List.mem_singleton.mp mem]
  have concernsSent : ∀ mac : MACAddress, h.Concerns (.outbound env now msg) h.arp
      ⟨[⟨msg, msg.outputPort, some mac⟩], [], []⟩ msg.nextHop := fun mac =>
    ⟨.refl _ _, arrival, fun other mem => by rw [List.mem_singleton.mp mem], nofun, fun _ _ => rfl, fun _ _ => rfl⟩
  cases outbound with
  | multicast group =>
      have free := not_pending_of_multicast (group ▸ good.sane)
      refine ⟨concernsSent _, good_of_same good (concernsSent _) rfl rfl ?_⟩
      rw [broadcast, (good.sane.idle free).2]
      rfl
  | hit entry single stored known =>
      have free := not_pending_of_known stored known
      refine ⟨concernsSent _, good_of_same good (concernsSent _) rfl rfl ?_⟩
      rw [broadcast, (good.sane.idle free).2]
      rfl
  | joins entry a' single stored pending affects after =>
      have concerns : h.Concerns (.outbound env now msg) a' ⟨[], [], []⟩ msg.nextHop :=
        ⟨affects, arrival, nofun, nofun, fun _ _ => rfl, fun _ _ => rfl⟩
      have busy : (h.arp.resolution msg.nextHop).Pending := ⟨entry, stored, pending⟩
      refine ⟨concerns, good_own good concerns ?_ ?_ ?_ ?_⟩
      · rw [broadcast, waiting_of_pending stored, after]
        rfl
      · rw [after]
        refine ⟨?_, fun free => (free ⟨_, rfl, pending⟩).elim, fun entry' stored' _ => ?_⟩
        · rw [good.sane.queue, waiting_of_pending stored]
          rfl
        · cases stored'
          exact good.sane.busy entry stored pending
      · rw [after]
        intro entry' stored' known
        cases stored'
        rw [pending] at known
        cases known
      · rw [after, if_pos busy]
        intro entry' stored' _
        cases stored'
        exact good.asked entry stored pending
  | starts entry time a' out single free same affects after silent keeps asks =>
      have concerns : h.Concerns (.outbound env now msg) a' out msg.nextHop := by
        refine ⟨affects, arrival, ?_, ?_, fun _ _ => rfl, fun other apart => (asks other).trans (if_neg apart)⟩
        · rw [silent]
          nofun
        · rw [keeps]
          nofun
      have idle := good.sane.idle free
      refine ⟨concerns, good_own good concerns ?_ ?_ ?_ ?_⟩
      · rw [broadcast, after, silent, keeps, ← same]
        rfl
      · rw [after, idle.1, good.sane.queue, ← same]
        refine ⟨rfl, fun free => (free ⟨_, rfl, rfl⟩).elim, fun entry' stored' _ => ?_⟩
        cases stored'
        exact ⟨single, le_refl _, .inl rfl, (msg.nextHop, time), rfl, rfl⟩
      · rw [after]
        intro entry' stored' known
        cases stored'
        cases known
      · rw [after, if_neg free, asks, if_pos rfl]
        intro entry' stored' _
        cases stored'
        rfl

theorem timer_of_scheduled (good : h.Good k) (scheduled : (k, now) ∈ h.arp.timers) :
    ∃ entry, (h.arp.resolution k).entry = some entry ∧ entry.pending = true ∧
      (h.arp.resolution k).timers = [(k, now)] := by
  have mem : (k, now) ∈ (h.arp.resolution k).timers := List.mem_filter.mpr ⟨scheduled, decide_eq_true rfl⟩
  have busy : (h.arp.resolution k).Pending := by
    by_contra free
    rw [(good.sane.idle free).1] at mem
    cases mem
  obtain ⟨entry, stored, pending⟩ := busy
  obtain ⟨-, -, -, message, -, timers⟩ := good.sane.busy entry stored pending
  rw [timers] at mem
  exact ⟨entry, stored, pending, (List.mem_singleton.mp mem) ▸ timers⟩

variable [DecidableEq α]

theorem good_timeout (good : h.Good k)
    (scheduled : (k, now) ∈ h.arp.timers) (timedOut : ARP.TimedOut h.arp k now a' out) :
    h.Concerns (.timeout env now k) a' out k ∧ (h.next (.timeout env now k) a' out).Good k ∧
      out.packets = [] ∧ ∀ msg ∈ out.deleted, (h.asked msg.nextHop : Int) = max 1 h.arp.retryCount := by
  obtain ⟨owner, owned, pending, timers⟩ := timer_of_scheduled good scheduled
  have busy : (h.arp.resolution k).Pending := ⟨owner, owned, pending⟩
  obtain ⟨single, positive, tries, -⟩ := good.sane.busy owner owned pending
  cases timedOut with
  | retries entry time a' out stored more affects after silent keeps asks =>
      cases owned.symm.trans stored
      have concerns : h.Concerns (.timeout env now k) a' out k := by
        refine ⟨affects, nofun, ?_, ?_, fun _ _ => rfl, fun other apart => (asks other).trans (if_neg apart)⟩
        · rw [silent]
          nofun
        · rw [keeps]
          nofun
      refine ⟨concerns, good_own good concerns ?_ ?_ ?_ ?_, silent, by rw [keeps]; nofun⟩
      · rw [after, silent, keeps, waiting_of_pending stored]
        exact List.append_nil _
      · rw [after, timers, List.erase_cons_head, good.sane.queue, waiting_of_pending stored]
        refine ⟨rfl, fun free => (free ⟨_, rfl, pending⟩).elim, fun entry' stored' _ => ?_⟩
        cases stored'
        exact ⟨single, by dsimp only; omega, .inr more, (k, time), rfl, rfl⟩
      · rw [after]
        intro entry' stored' known
        cases stored'
        rw [pending] at known
        cases known
      · rw [after, if_pos busy, asks, if_pos rfl]
        intro entry' stored' _
        cases stored'
        have before := good.asked owner owned pending
        dsimp only
        omega
  | fails entry a' stored last affects after =>
      cases owned.symm.trans stored
      have waits : owner.pendingPackets = (h.arp.resolution k).waiting := (waiting_of_pending owned).symm
      have mine : ∀ msg ∈ owner.pendingPackets, msg.nextHop = k := waits ▸ mem_waiting_nextHop good
      have concerns : h.Concerns (.timeout env now k) a' ⟨[], [], owner.pendingPackets⟩ k :=
        ⟨affects, nofun, nofun, mine, fun _ _ => rfl, fun _ _ => rfl⟩
      refine ⟨concerns, good_own good concerns ?_ ?_ ?_ ?_, rfl, fun msg mem => ?_⟩
      · rw [after, ← waits]
        rfl
      · rw [after, timers, List.erase_cons_head, good.sane.queue, ← waits, Lists.foldl_erase_self]
        exact ⟨rfl, fun _ => ⟨rfl, rfl⟩, nofun⟩
      · rw [after]
        nofun
      · rw [after]
        nofun
      · rw [mine msg mem]
        have before := good.asked owner owned pending
        omega

theorem good_arpPacket {packet : ARPPacket} {inputPort : Int}
    (good : h.Good packet.srcIPAddress) (keeps : out.deleted = []) (silent : ∀ addr, out.requests addr = 0)
    (merged : ARP.Merged h.arp packet.srcIPAddress now packet.srcMACAddress
      (h.arp.addressRecognized env packet.destIPAddress inputPort) a' out.packets) :
    h.Concerns (.arpPacket env now packet inputPort) a' out packet.srcIPAddress ∧
      (h.next (.arpPacket env now packet inputPort) a' out).Good packet.srcIPAddress := by
  have others : ∀ addr, addr ≠ packet.srcIPAddress →
      (Event.arpPacket env now packet inputPort).learns h.arp addr = none := fun addr apart =>
    if_neg fun both => apart both.1.symm
  generalize sends : out.packets = packets at merged
  cases merged with
  | ignores none stranger =>
      have concerns : h.Concerns (.arpPacket env now packet inputPort) h.arp out packet.srcIPAddress := by
        refine ⟨.refl _ _, nofun, ?_, ?_, others, fun other _ => silent other⟩
        · rw [sends]
          nofun
        · rw [keeps]
          nofun
      refine ⟨concerns, good_of_same good concerns (silent _) ?_ ?_⟩
      · refine if_neg ?_
        rw [none, stranger]
        exact fun both => both.2.elim nofun nofun
      · rw [sends, keeps]
        exact List.append_nil _
  | updates entry a' retries timer same kept fresh affects after =>
      have mine : ∀ msg ∈ entry.pendingPackets, msg.nextHop = packet.srcIPAddress := same ▸ mem_waiting_nextHop good
      have all : out.packets.filter (·.dest.isSome) = out.packets := by
        rw [sends]
        refine List.filter_eq_self.mpr fun p mem => ?_
        obtain ⟨msg, -, rfl⟩ := List.mem_map.mp mem
        rfl
      have messages : out.packets.map SentPacket.msg = entry.pendingPackets := by
        rw [sends, List.map_map]
        exact List.map_id _
      have concerns : h.Concerns (.arpPacket env now packet inputPort) a' out packet.srcIPAddress := by
        refine ⟨affects, nofun, ?_, ?_, others, fun other _ => silent other⟩
        · rw [all, messages]
          exact mine
        · rw [keeps]
          nofun
      have timers : ARP.timersWithout packet.srcIPAddress entry (h.arp.resolution packet.srcIPAddress).timers = [] := by
        unfold ARP.timersWithout
        cases pending : entry.pending with
        | false =>
            refine (good.sane.idle ?_).1
            rintro ⟨entry', stored, busy⟩
            rw [kept entry' stored, pending] at busy
            cases busy
        | true =>
            have stored : (h.arp.resolution packet.srcIPAddress).entry = some entry := by
              cases found : (h.arp.resolution packet.srcIPAddress).entry with
              | none =>
                  rw [(fresh found).1] at pending
                  cases pending
              | some entry' => rw [kept entry' found]
            obtain ⟨-, -, -, message, timer, scheduled⟩ := good.sane.busy entry stored pending
            have own : message.1 = packet.srcIPAddress := by
              have mem : message ∈ (h.arp.resolution packet.srcIPAddress).timers :=
                scheduled ▸ List.mem_singleton_self message
              exact of_decide_eq_true (List.mem_filter.mp mem).2
            rw [timer, scheduled, ← own]
            change [message].erase message = []
            rw [List.erase_cons_head]
      refine ⟨concerns, good_own good concerns ?_ ?_ ?_ ?_⟩
      · rw [after, all, messages, keeps, ← same]
        exact (List.append_nil (entry.pendingPackets ++ [])).symm
      · rw [after, timers, good.sane.queue, ← same, Lists.foldl_erase_self]
        refine ⟨rfl, fun _ => ⟨rfl, rfl⟩, fun entry' stored' busy => ?_⟩
        cases stored'
        cases busy
      · rw [after]
        intro entry' stored' _
        cases stored'
        have learns : (Event.arpPacket env now packet inputPort).learns h.arp packet.srcIPAddress =
            some packet.srcMACAddress := by
          refine if_pos ⟨rfl, ?_⟩
          cases found : (h.arp.resolution packet.srcIPAddress).entry with
          | none => exact .inr (fresh found).2
          | some entry' => exact .inl rfl
        rw [learns]
        rfl
      · rw [after]
        intro entry' stored' busy
        cases stored'
        cases busy

theorem kept_arpPacket {packet : ARPPacket} {inputPort : Int}
    (good : h.Good packet.srcIPAddress) (keeps : out.deleted = [])
    (good' : (h.next (.arpPacket env now packet inputPort) a' out).Good packet.srcIPAddress)
    (merged : ARP.Merged h.arp packet.srcIPAddress now packet.srcMACAddress
      (h.arp.addressRecognized env packet.destIPAddress inputPort) a' out.packets) :
    Kept h (h.next (.arpPacket env now packet inputPort) a' out, out) ↔
      h.Sound (.arpPacket env now packet inputPort) := by
  generalize sends : out.packets = packets at merged
  cases merged with
  | ignores none stranger =>
      refine iff_of_true ⟨?_, ?_, ?_⟩ fun entry stored => by cases none.symm.trans stored
      · rw [sends]
        nofun
      · rw [sends]
        nofun
      · rw [keeps]
        nofun
  | updates entry a' retries timer same kept fresh affects after =>
      have learned : (h.next (.arpPacket env now packet inputPort) a' out).learned packet.srcIPAddress =
          some packet.srcMACAddress := good'.mac _ (congrArg Resolution.entry after) rfl
      constructor
      · intro holds entry' stored msg mem
        rw [kept entry' stored] at mem ⊢
        exact (holds.port _ (sends ▸ List.mem_map_of_mem mem) rfl).symm
      · intro sound
        have owned : ∀ msg ∈ entry.pendingPackets, (h.arp.resolution packet.srcIPAddress).entry = some entry ∧
            packet.srcIPAddress.isMulticast = false := fun msg mem => by
          have waits : msg ∈ (h.arp.resolution packet.srcIPAddress).waiting := same ▸ mem
          have busy : (h.arp.resolution packet.srcIPAddress).Pending := by
            by_contra free
            rw [(good.sane.idle free).2] at waits
            cases waits
          obtain ⟨entry', stored, pending⟩ := busy
          exact ⟨kept entry' stored ▸ stored, (good.sane.busy entry' stored pending).1⟩
        refine ⟨fun p mem _ => ?_, fun p mem _ => ?_, ?_⟩
        · rw [sends] at mem
          obtain ⟨msg, waits, rfl⟩ := List.mem_map.mp mem
          exact (sound entry (owned msg waits).1 msg waits).symm
        · rw [sends] at mem
          obtain ⟨msg, waits, rfl⟩ := List.mem_map.mp mem
          have own : msg.nextHop = packet.srcIPAddress := mem_waiting_nextHop good msg (same ▸ waits)
          have single : ¬ packet.srcIPAddress.isMulticast = true := by
            rw [(owned msg waits).2]
            exact Bool.false_ne_true
          change some packet.srcMACAddress = macOf _ msg.nextHop
          rw [own, macOf, if_neg single, learned]
        · rw [keeps]
          nofun

omit [DecidableEq α] in
theorem kept_outbound {msg : OutboundPacket α}
    (good : h.Good msg.nextHop) (outbound : ARP.Outbound h.arp msg a' out) :
    Kept h (h.next (.outbound env now msg) a' out, out) := by
  cases outbound with
  | multicast group =>
      refine ⟨fun p mem _ => ?_, fun p mem _ => ?_, nofun⟩
      · rw [List.mem_singleton.mp mem]
      · rw [List.mem_singleton.mp mem]
        exact (if_pos group).symm
  | hit entry single stored known =>
      refine ⟨fun p mem _ => ?_, fun p mem _ => ?_, nofun⟩
      · rw [List.mem_singleton.mp mem]
      · rw [List.mem_singleton.mp mem]
        refine Eq.trans ?_ (if_neg (by rw [single]; exact Bool.false_ne_true)).symm
        exact (good.mac entry stored known).symm
  | joins entry a' single stored pending affects after => exact ⟨nofun, nofun, nofun⟩
  | starts entry time a' out single free same affects after silent keeps asks =>
      refine ⟨?_, ?_, ?_⟩
      · rw [silent]
        nofun
      · rw [silent]
        nofun
      · rw [keeps]
        nofun

omit [DecidableEq α] in
theorem good_of_concerns (good : ∀ addr, h.Good addr) (concerns : h.Concerns e arp out k) (own : (h.next e arp out).Good k) :
    ∀ addr, (h.next e arp out).Good addr := fun addr => by
  by_cases same : addr = k
  · exact same ▸ own
  · exact good_beside good concerns same

/-- One step keeps what holds of each address, and meets the claim exactly if it is sound. -/
theorem good_outcome {h' : ARPHistory α} (good : ∀ addr, h.Good addr) (admits : h.Admits e)
    (outcomes : h.outcome e = .ok (h', out)) : (∀ addr, h'.Good addr) ∧ (Kept h (h', out) ↔ h.Sound e) ∧
      h'.arp.retryCount = h.arp.retryCount := by
  obtain ⟨⟨a', out'⟩, handles, same⟩ := map_eq_ok outcomes
  cases same
  cases e with
  | outbound env now msg =>
      cases interface : env.interfaceByPortNo msg.outputPort with
      | none =>
          change h.arp.processOutboundPacket env now msg = _ at handles
          unfold ARP.processOutboundPacket at handles
          rw [interface] at handles
          cases handles
      | some ie =>
          by_cases broadcast : ie.isBroadcast = true
          · have arrival : (Event.outbound env now msg).arrival = [msg] := by
              change (if _ then [msg] else []) = [msg]
              rw [interface]
              exact if_pos broadcast
            have outbound := ARP.outbound_of_ok interface broadcast handles
            obtain ⟨concerns, own⟩ := good_outbound (good msg.nextHop) arrival outbound
            exact ⟨good_of_concerns good concerns own, iff_of_true (kept_outbound (good _) outbound) trivial,
              concerns.affects.retryCount⟩
          · have arrival : (Event.outbound env now msg).arrival = [] := by
              change (if _ then [msg] else []) = []
              rw [interface]
              exact if_neg broadcast
            change h.arp.processOutboundPacket env now msg = _ at handles
            unfold ARP.processOutboundPacket at handles
            rw [interface, deref_some, ok_bind, if_pos broadcast] at handles
            obtain ⟨_, _, ends⟩ := bind_eq_ok.mp handles
            cases ends
            have concerns : h.Concerns (.outbound env now msg) h.arp ⟨[⟨msg, msg.outputPort, none⟩], [], []⟩ msg.nextHop :=
              ⟨.refl _ _, by rw [arrival]; nofun, nofun, nofun, fun _ _ => rfl, fun _ _ => rfl⟩
            refine ⟨good_of_concerns good concerns (good_of_same (good _) concerns rfl rfl ?_),
              iff_of_true ⟨fun p mem given => ?_, fun p mem given => ?_, nofun⟩ trivial, rfl⟩
            · rw [arrival]
              exact List.append_nil _
            · rw [List.mem_singleton.mp mem] at given
              cases given
            · rw [List.mem_singleton.mp mem] at given
              cases given
  | arpPacket env now packet inputPort =>
      obtain ⟨merged, keeps, silent⟩ := ARP.merged_of_ok (mem_waiting_nextHop (good packet.srcIPAddress)) handles
      obtain ⟨concerns, own⟩ := good_arpPacket (good _) keeps silent merged
      exact ⟨good_of_concerns good concerns own, kept_arpPacket (good _) keeps own merged, concerns.affects.retryCount⟩
  | timeout env now address =>
      have timedOut := ARP.timedOut_of_ok (mem_waiting_nextHop (good address)) handles
      obtain ⟨concerns, own, silent, drops⟩ := good_timeout (good address) admits.2.2 timedOut
      refine ⟨good_of_concerns good concerns own, iff_of_true ⟨?_, ?_, drops⟩ trivial, concerns.affects.retryCount⟩
      · rw [silent]
        nofun
      · rw [silent]
        nofun

theorem orderly_of_good (good : ∀ addr, h.Good addr) : h.Orderly where
  once := by
    refine Lists.perm_of_filter_perm OutboundPacket.nextHop fun addr => ?_
    have once := (good addr).once
    rw [← (good addr).sane.queue] at once
    rw [List.filter_append, List.filter_append]
    exact once
  order addr := by
    have order := (good addr).order
    rw [← (good addr).sane.queue] at order
    rw [List.filter_append]
    exact order
  pending addr := by
    constructor
    · rintro ⟨entry, stored, pending⟩
      obtain ⟨-, -, -, message, -, timers⟩ := (good addr).sane.busy entry stored pending
      have mem : message ∈ (h.arp.resolution addr).timers := timers ▸ List.mem_singleton_self message
      obtain ⟨scheduled, own⟩ := List.mem_filter.mp mem
      exact ⟨message.2, (of_decide_eq_true own) ▸ scheduled⟩
    · rintro ⟨time, scheduled⟩
      obtain ⟨entry, stored, pending, -⟩ := timer_of_scheduled (good addr) scheduled
      exact ⟨entry, stored, pending⟩
  one := by
    refine List.nodup_iff_count.mpr fun addr => ?_
    have counted : (h.arp.timers.map Prod.fst).count addr = (h.arp.resolution addr).timers.length := by
      rw [List.count_eq_countP, List.countP_map, List.countP_eq_length_filter]
      rfl
    rw [counted]
    by_cases busy : (h.arp.resolution addr).Pending
    · obtain ⟨entry, stored, pending⟩ := busy
      obtain ⟨-, -, -, message, -, timers⟩ := (good addr).sane.busy entry stored pending
      rw [timers]
      exact Nat.le_refl 1
    · rw [((good addr).sane.idle busy).1]
      exact Nat.zero_le 1
  queue addr := by
    refine (good addr).sane.queue.trans ?_
    by_cases busy : (h.arp.resolution addr).Pending
    · exact (if_pos busy).symm
    · rw [if_neg busy]
      exact ((good addr).sane.idle busy).2

end ARPHistory

/-- In every run the module is orderly, and each step sends packets on the ports of their own routing decisions
exactly if those that it releases have that of the entry; MAC addresses and drops are as they should be. -/
theorem arp_delivery {α : Type} [DecidableEq α] (retryTimeout : SimTime) (retryCount : Int) (cacheTimeout : SimTime)
    (doProxyARP : Bool) (nicOutSize : Nat) {es : List (ARPHistory.Event α)} {h : ARPHistory α}
    (runs : Runs ARPHistory.step ARPHistory.Admits
      (.start (.start retryTimeout retryCount cacheTimeout doProxyARP nicOutSize)) es h) :
    h.Orderly ∧ ∀ e, h.Admits e → ∀ after, h.outcome e = .ok after → (h.Kept after ↔ h.Sound e) := by
  have good : ∀ addr, h.Good addr := by
    refine runs.invariant (fun h => ∀ addr, h.Good addr) (fun h e h' good admits steps => ?_) fun addr => ?_
    · obtain ⟨⟨after, out⟩, outcomes, rfl⟩ := map_eq_ok steps
      exact (ARPHistory.good_outcome good admits outcomes).1
    · have none : (ARP.resolution (.start retryTimeout retryCount cacheTimeout doProxyARP nicOutSize : ARP α) addr) =
          ⟨none, [], []⟩ := by
        unfold ARP.resolution
        exact congrArg (fun entry => (⟨entry, [], []⟩ : Resolution α)) Std.TreeMap.getElem?_emptyc
      have free : ¬ (ARP.resolution (.start retryTimeout retryCount cacheTimeout doProxyARP nicOutSize : ARP α)
          addr).Pending := by
        rw [none]
        nofun
      refine ⟨?_, ?_, ?_, fun _ => rfl, ?_, ?_⟩
      all_goals simp only [ARPHistory.start, none]
      · exact ⟨rfl, fun _ => ⟨rfl, rfl⟩, nofun⟩
      · nofun
      · nofun
      · exact .slnil
      · exact .nil
  exact ⟨ARPHistory.orderly_of_good good, fun e admits after outcomes =>
    (ARPHistory.good_outcome good admits outcomes).2.1⟩

/-- Two broadcast interfaces, at the ports 0 and 1 -/
def exampleSurroundings : ARPSurroundings where
  interfaceByPortNo port := if 0 ≤ port ∧ port < 2 then some ⟨true, "0AAA00000001".toList, 0x0A000001⟩ else none
  localDeliver addr := addr = 0x0A000001
  outputPortNo _ := -1

def exampleNextHop : IPAddress := 0x0A000002

def exampleOutbound (outputPort : Int) (number : Nat) : OutboundPacket Nat := ⟨exampleNextHop, outputPort, none, number⟩

def exampleReply : ARPPacket := ⟨arpReply, 0xBB, 0xAA, exampleNextHop, 0x0A000001⟩

/-- Two packets wait for the answer, leave in order, and a third one leaves at once. -/
theorem arp_delivery_answered : ∃ (es : List (ARPHistory.Event Nat)) (h : ARPHistory Nat),
    Runs ARPHistory.step ARPHistory.Admits (.start (.start 1 3 120 false 2)) es h ∧
      h.sent = [⟨exampleOutbound 0 1, 0, some 0xBB⟩, ⟨exampleOutbound 0 2, 0, some 0xBB⟩,
        ⟨exampleOutbound 1 3, 1, some 0xBB⟩] ∧ h.Orderly := by
  have checked : (run (fun h e => Exec.assert (ARPHistory.Admits h e) >>= fun _ => ARPHistory.step h e)
      (ARPHistory.start (.start 1 3 120 false 2))
      [.outbound exampleSurroundings 0 (exampleOutbound 0 1), .timeout exampleSurroundings 1 exampleNextHop,
        .outbound exampleSurroundings 1 (exampleOutbound 0 2), .arpPacket exampleSurroundings 2 exampleReply 0,
        .outbound exampleSurroundings 3 (exampleOutbound 1 3)]).map (fun h => decide (h.sent =
          [⟨exampleOutbound 0 1, 0, some 0xBB⟩, ⟨exampleOutbound 0 2, 0, some 0xBB⟩,
            ⟨exampleOutbound 1 3, 1, some 0xBB⟩])) = .ok true := by
    decide +kernel
  obtain ⟨h, runs, same⟩ := map_eq_ok checked
  have admitted := Runs.of_checked runs
  exact ⟨_, h, admitted, of_decide_eq_true same, (arp_delivery 1 3 120 false 2 admitted).1⟩

/-- A packet for port 1 that waits with one for port 0 is sent on port 0. -/
theorem arp_delivery_fails : ∃ (es : List (ARPHistory.Event Nat)) (h : ARPHistory Nat) (e : ARPHistory.Event Nat)
      (after : ARPHistory Nat × ARPOutput Nat),
    Runs ARPHistory.step ARPHistory.Admits (.start (.start 1 3 120 false 2)) es h ∧ h.Admits e ∧
      h.outcome e = .ok after ∧ ¬ h.Kept after := by
  have checked : (do
      let h ← run (fun h e => Exec.assert (ARPHistory.Admits h e) >>= fun _ => ARPHistory.step h e)
        (ARPHistory.start (.start 1 3 120 false 2))
        [.outbound exampleSurroundings 0 (exampleOutbound 0 1), .outbound exampleSurroundings 0 (exampleOutbound 1 2)]
      let after ← h.outcome (.arpPacket exampleSurroundings (1 / 2) exampleReply 0)
      return decide (h.Admits (.arpPacket exampleSurroundings (1 / 2) exampleReply 0) ∧
        (⟨exampleOutbound 1 2, 0, some 0xBB⟩ : SentPacket Nat) ∈ after.2.packets) : Exec Bool) = .ok true := by
    decide +kernel
  obtain ⟨h, runs, outcomes⟩ := bind_eq_ok.mp checked
  obtain ⟨after, outcomes, same⟩ := bind_eq_ok.mp outcomes
  obtain ⟨admits, mem⟩ := of_decide_eq_true (Except.ok.inj same)
  exact ⟨_, h, _, after, Runs.of_checked runs, admits, outcomes, fun kept => absurd (kept.port _ mem rfl) (by decide)⟩

end IPv6Suite
