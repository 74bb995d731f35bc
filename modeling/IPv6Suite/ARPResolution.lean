import IPv6Suite.ARP
import IPv6Suite.Lib.Lists

namespace IPv6Suite

open Lib

def OutboundPacket.nextHop {α : Type} (msg : OutboundPacket α) : IPAddress :=
  if ¬ msg.nextHopAddr.isNull then msg.nextHopAddr else msg.destAddress.getD 0

/-- What the module has of one address -/
structure Resolution (α : Type) where
  entry : Option (ARPCacheEntry α)
  timers : List (IPAddress × SimTime)
  queued : List (OutboundPacket α)

namespace Resolution

variable {α : Type}

def waiting (r : Resolution α) : List (OutboundPacket α) :=
  match r.entry with
  | none => []
  | some entry => entry.pendingPackets

def Pending (r : Resolution α) : Prop := ∃ entry, r.entry = some entry ∧ entry.pending = true

/-- Nothing is scheduled or waits without a pending entry. A pending one has its timer, has been asked for less often
than is configured unless it is for the first time, and its packets wait in the queue, too. -/
structure Sane (r : Resolution α) (retryCount : Int) (multicast : Bool) : Prop where
  queue : r.queued = r.waiting
  idle : ¬ r.Pending → r.timers = [] ∧ r.waiting = []
  busy : ∀ entry, r.entry = some entry → entry.pending = true → multicast = false ∧
    0 ≤ entry.numRetries ∧ (entry.numRetries = 0 ∨ entry.numRetries < retryCount) ∧
      ∃ message, entry.timer = some message.2 ∧ r.timers = [message]

end Resolution

namespace ARPOutput

variable {α : Type}

def requests (out : ARPOutput α) (addr : IPAddress) : Nat :=
  out.arps.countP fun sent => sent.arp.opcode = arpRequest ∧ sent.arp.destIPAddress = addr

end ARPOutput

namespace ARP

variable {α : Type}

/-- What the module has of an address -/
def resolution (a : ARP α) (addr : IPAddress) : Resolution α :=
  ⟨a.arpCache[addr]?, a.timers.filter (·.1 = addr), a.pendingQueue.filter (·.nextHop = addr)⟩

/-- Only one address is affected, and the settings stay. -/
structure Affects (k : IPAddress) (a a' : ARP α) : Prop where
  retryCount : a'.retryCount = a.retryCount
  others : ∀ other, other ≠ k → a'.resolution other = a.resolution other

theorem Affects.refl (k : IPAddress) (a : ARP α) : Affects k a a := ⟨rfl, fun _ _ => rfl⟩

variable {a a' : ARP α} {env : ARPSurroundings} {now : SimTime} {k : IPAddress} {entry : ARPCacheEntry α}
  {msg : OutboundPacket α} {out : ARPOutput α}

theorem filter_singleton_self {β : Type} (f : β → IPAddress) {b : β} (own : f b = k) : [b].filter (f · = k) = [b] := by
  refine List.filter_eq_self.mpr fun c mem => ?_
  rw [List.mem_singleton.mp mem]
  exact decide_eq_true own

theorem filter_singleton_ne {β : Type} (f : β → IPAddress) {b : β} {other : IPAddress} (own : f b = k)
    (apart : other ≠ k) : [b].filter (f · = other) = [] := by
  refine List.filter_eq_nil_iff.mpr fun c mem same => ?_
  rw [List.mem_singleton.mp mem] at same
  exact apart ((of_decide_eq_true same).symm.trans own)

theorem resolution_insert (a : ARP α) (entry : ARPCacheEntry α) (timers : List (IPAddress × SimTime))
    (own : msg.nextHop = k) (mine : ∀ message ∈ timers, message.1 = k) :
    Affects k a { a with
      arpCache := a.arpCache.insert k entry, timers := a.timers ++ timers, pendingQueue := a.pendingQueue ++ [msg] } ∧
    ARP.resolution { a with
      arpCache := a.arpCache.insert k entry, timers := a.timers ++ timers, pendingQueue := a.pendingQueue ++ [msg] } k =
        ⟨some entry, (a.resolution k).timers ++ timers, (a.resolution k).queued ++ [msg]⟩ := by
  constructor
  · refine ⟨rfl, fun other apart => ?_⟩
    have none : timers.filter (·.1 = other) = [] := List.filter_eq_nil_iff.mpr fun message mem same =>
      apart ((of_decide_eq_true same).symm.trans (mine message mem))
    unfold resolution
    dsimp only
    rw [StdMap.getElem?_insert_ne apart.symm, List.filter_append, List.filter_append, none,
      filter_singleton_ne OutboundPacket.nextHop own apart, List.append_nil, List.append_nil]
  · have all : timers.filter (·.1 = k) = timers := List.filter_eq_self.mpr fun message mem =>
      decide_eq_true (mine message mem)
    unfold resolution
    dsimp only
    rw [StdMap.getElem?_insert_self, List.filter_append, List.filter_append, all,
      filter_singleton_self OutboundPacket.nextHop own]

theorem sendARPRequest_requests {outputPort : Int} {request : SentARPPacket}
    (sends : a.sendARPRequest env outputPort k = .ok request) (addr : IPAddress) :
    ARPOutput.requests (⟨[], [request], []⟩ : ARPOutput α) addr = if addr = k then 1 else 0 := by
  obtain ⟨ie, _, ends⟩ := bind_eq_ok.mp sends
  obtain ⟨myMACAddress, _, ends⟩ := bind_eq_ok.mp ends
  obtain ⟨_, _, ends⟩ := bind_eq_ok.mp ends
  cases ends
  unfold ARPOutput.requests
  rw [List.countP_singleton]
  by_cases own : addr = k
  · rw [if_pos own, if_pos (decide_eq_true ⟨rfl, own.symm⟩)]
  · rw [if_neg own, if_neg fun same => own (of_decide_eq_true same).2.symm]

theorem resolve_eq_ok (own : msg.nextHop = k) (resolves : a.resolve env now k entry msg = .ok (a', out)) :
    Affects k a a' ∧ out.packets = [] ∧ out.deleted = [] ∧
      (∀ addr, out.requests addr = if addr = k then 1 else 0) ∧ ∃ time, a'.resolution k =
        ⟨some { entry with
          pending := true, numRetries := 0, lastUpdate := 0, timer := some time,
          pendingPackets := entry.pendingPackets ++ [msg] },
        (a.resolution k).timers ++ [(k, time)], (a.resolution k).queued ++ [msg]⟩ := by
  obtain ⟨⟨_, _, request⟩, initiates, ends⟩ := bind_eq_ok.mp resolves
  obtain ⟨request, sends, scheduled⟩ := bind_eq_ok.mp initiates
  obtain ⟨time, _, same⟩ := bind_eq_ok.mp scheduled
  cases same
  cases ends
  have inserted := resolution_insert a { entry with
    pending := true, numRetries := 0, lastUpdate := 0, timer := some time,
    pendingPackets := entry.pendingPackets ++ [msg] } [(k, time)] own fun message mem => by rw [List.mem_singleton.mp mem]
  exact ⟨inserted.1, rfl, rfl, sendARPRequest_requests sends, time, inserted.2⟩

theorem affects_of (retryCount : a'.retryCount = a.retryCount)
    (cache : ∀ other : IPAddress, other ≠ k → a'.arpCache[other]? = a.arpCache[other]?)
    (timers : ∀ other, other ≠ k → a'.timers.filter (·.1 = other) = a.timers.filter (·.1 = other))
    (queue : ∀ other, other ≠ k → a'.pendingQueue.filter (·.nextHop = other) =
      a.pendingQueue.filter (·.nextHop = other)) : Affects k a a' := by
  refine ⟨retryCount, fun other apart => ?_⟩
  unfold resolution
  rw [cache other apart, timers other apart, queue other apart]

theorem filter_erase_timer (timers : List (IPAddress × SimTime)) (time : SimTime) {other : IPAddress} (apart : other ≠ k) :
    (timers.erase (k, time)).filter (·.1 = other) = timers.filter (·.1 = other) := by
  rw [← List.erase_filter]
  exact List.erase_of_not_mem fun mem => apart (of_decide_eq_true (List.mem_filter.mp mem).2).symm

theorem filter_remove_packets [DecidableEq α] {removed : List (OutboundPacket α)} (queue : List (OutboundPacket α))
    (mine : ∀ msg ∈ removed, msg.nextHop = k) {other : IPAddress} (apart : other ≠ k) :
    (removed.foldl List.erase queue).filter (·.nextHop = other) = queue.filter (·.nextHop = other) := by
  rw [Lists.filter_foldl_erase]
  refine Lists.foldl_erase_of_not_mem fun msg mem inside => apart ?_
  exact (of_decide_eq_true (List.mem_filter.mp inside).2).symm.trans (mine msg mem)

/-- What a packet does that comes from the network layer -/
inductive Outbound (a : ARP α) (msg : OutboundPacket α) : ARP α → ARPOutput α → Prop where
  | multicast (group : msg.nextHop.isMulticast = true) :
      Outbound a msg a ⟨[⟨msg, msg.outputPort, some broadcastAddress⟩], [], []⟩
  | hit (entry : ARPCacheEntry α) (single : msg.nextHop.isMulticast = false)
      (stored : (a.resolution msg.nextHop).entry = some entry) (known : entry.pending = false) :
      Outbound a msg a ⟨[⟨msg, msg.outputPort, some entry.macAddress⟩], [], []⟩
  | joins (entry : ARPCacheEntry α) (a' : ARP α) (single : msg.nextHop.isMulticast = false)
      (stored : (a.resolution msg.nextHop).entry = some entry) (pending : entry.pending = true)
      (affects : Affects msg.nextHop a a') (after : a'.resolution msg.nextHop =
        ⟨some { entry with pendingPackets := entry.pendingPackets ++ [msg] }, (a.resolution msg.nextHop).timers,
          (a.resolution msg.nextHop).queued ++ [msg]⟩) : Outbound a msg a' ⟨[], [], []⟩
  | starts (entry : ARPCacheEntry α) (time : SimTime) (a' : ARP α) (out : ARPOutput α)
      (single : msg.nextHop.isMulticast = false) (free : ¬ (a.resolution msg.nextHop).Pending)
      (same : entry.pendingPackets = (a.resolution msg.nextHop).waiting)
      (affects : Affects msg.nextHop a a') (after : a'.resolution msg.nextHop =
        ⟨some { entry with
          pending := true, numRetries := 0, lastUpdate := 0, timer := some time,
          pendingPackets := entry.pendingPackets ++ [msg] },
        (a.resolution msg.nextHop).timers ++ [(msg.nextHop, time)], (a.resolution msg.nextHop).queued ++ [msg]⟩)
      (silent : out.packets = []) (keeps : out.deleted = [])
      (asks : ∀ addr, out.requests addr = if addr = msg.nextHop then 1 else 0) : Outbound a msg a' out

theorem outbound_of_ok {ie : ARPInterface} (interface : env.interfaceByPortNo msg.outputPort = some ie)
    (broadcast : ie.isBroadcast = true) (processes : a.processOutboundPacket env now msg = .ok (a', out)) :
    Outbound a msg a' out := by
  unfold processOutboundPacket at processes
  rw [interface, deref_some, ok_bind, if_neg (not_not.mpr broadcast)] at processes
  obtain ⟨nextHopAddr, chosen, processes⟩ := bind_eq_ok.mp processes
  have own : msg.nextHop = nextHopAddr := by
    unfold OutboundPacket.nextHop
    split at chosen
    · rename_i given
      cases chosen
      exact if_pos given
    · rename_i absent
      rw [deref_eq_ok] at chosen
      rw [if_neg absent, chosen, Option.getD_some]
  subst own
  split at processes
  · rename_i group
    obtain ⟨sent, sends, ends⟩ := bind_eq_ok.mp processes
    obtain ⟨_, _, same⟩ := bind_eq_ok.mp sends
    cases same
    cases ends
    exact .multicast group
  · rename_i single
    rw [Bool.not_eq_true] at single
    split at processes
    · rename_i none
      obtain ⟨affects, silent, keeps, asks, time, after⟩ := resolve_eq_ok rfl processes
      refine .starts _ time a' out single ?_ ?_ affects after silent keeps asks
      · rintro ⟨entry, stored, -⟩
        cases none.symm.trans stored
      · unfold Resolution.waiting resolution
        rw [none]
    · rename_i entry stored
      have waits : (a.resolution msg.nextHop).waiting = entry.pendingPackets := by
        unfold Resolution.waiting resolution
        rw [stored]
      split at processes
      · rename_i pending
        cases processes
        have inserted := resolution_insert a { entry with pendingPackets := entry.pendingPackets ++ [msg] } []
          (rfl : msg.nextHop = _) nofun
        rw [List.append_nil, List.append_nil] at inserted
        exact .joins entry _ single stored pending inserted.1 inserted.2
      · rename_i known
        split at processes
        · obtain ⟨affects, silent, keeps, asks, time, after⟩ := resolve_eq_ok rfl processes
          refine .starts { entry with outputPort := msg.outputPort } time a' out single ?_ waits.symm affects after silent
            keeps asks
          rintro ⟨entry', stored', pending⟩
          cases stored.symm.trans stored'
          exact known pending
        · obtain ⟨sent, sends, ends⟩ := bind_eq_ok.mp processes
          obtain ⟨_, _, same⟩ := bind_eq_ok.mp sends
          cases same
          cases ends
          exact .hit entry single stored (Bool.not_eq_true _ ▸ known)

inductive TimedOut [DecidableEq α] (a : ARP α) (k : IPAddress) (now : SimTime) : ARP α → ARPOutput α → Prop where
  | retries (entry : ARPCacheEntry α) (time : SimTime) (a' : ARP α) (out : ARPOutput α)
      (stored : (a.resolution k).entry = some entry) (more : entry.numRetries + 1 < a.retryCount) (affects : Affects k a a')
      (after : a'.resolution k = ⟨some { entry with numRetries := entry.numRetries + 1, timer := some time },
        (a.resolution k).timers.erase (k, now) ++ [(k, time)], (a.resolution k).queued⟩)
      (silent : out.packets = []) (keeps : out.deleted = [])
      (asks : ∀ addr, out.requests addr = if addr = k then 1 else 0) : TimedOut a k now a' out
  | fails (entry : ARPCacheEntry α) (a' : ARP α) (stored : (a.resolution k).entry = some entry)
      (last : ¬ entry.numRetries + 1 < a.retryCount) (affects : Affects k a a')
      (after : a'.resolution k = ⟨none, (a.resolution k).timers.erase (k, now),
        entry.pendingPackets.foldl List.erase (a.resolution k).queued⟩) :
      TimedOut a k now a' ⟨[], [], entry.pendingPackets⟩

theorem timedOut_of_ok [DecidableEq α] (mine : ∀ msg ∈ (a.resolution k).waiting, msg.nextHop = k)
    (processes : a.requestTimedOut env now k = .ok (a', out)) : TimedOut a k now a' out := by
  obtain ⟨entry, stored, processes⟩ := bind_eq_ok.mp processes
  rw [deref_eq_ok] at stored
  dsimp only at stored processes
  split at processes
  · rename_i more
    obtain ⟨request, sends, scheduled⟩ := bind_eq_ok.mp processes
    obtain ⟨time, _, ends⟩ := bind_eq_ok.mp scheduled
    cases ends
    refine .retries entry time _ _ stored more (affects_of rfl ?_ ?_ fun _ _ => rfl) ?_ rfl rfl
      (sendARPRequest_requests sends)
    · exact fun other apart => StdMap.getElem?_insert_ne apart.symm
    · intro other apart
      dsimp only
      rw [List.filter_append, filter_erase_timer a.timers now apart, filter_singleton_ne Prod.fst rfl apart,
        List.append_nil]
    · unfold resolution
      dsimp only
      rw [StdMap.getElem?_insert_self, List.filter_append, ← List.erase_filter,
        filter_singleton_self Prod.fst (rfl : (k, time).1 = k)]
  · rename_i last
    cases processes
    have packets : ∀ msg ∈ entry.pendingPackets, msg.nextHop = k := fun msg mem => mine msg (by
      unfold Resolution.waiting resolution
      rw [stored]
      exact mem)
    refine .fails entry _ stored last (affects_of rfl ?_ ?_ ?_) ?_
    · exact fun other apart => StdMap.getElem?_erase_ne apart.symm
    · exact fun other apart => filter_erase_timer a.timers now apart
    · exact fun other apart => filter_remove_packets a.pendingQueue packets apart
    · unfold resolution
      dsimp only
      rw [StdMap.getElem?_erase_self, ← List.erase_filter, Lists.filter_foldl_erase]

/-- The timers of an address once that of its entry is cancelled -/
def timersWithout (k : IPAddress) (entry : ARPCacheEntry α) (timers : List (IPAddress × SimTime)) :
    List (IPAddress × SimTime) :=
  match entry.pending, entry.timer with
  | true, some time => timers.erase (k, time)
  | _, _ => timers

theorem filter_timersWithout (entry : ARPCacheEntry α) (timers : List (IPAddress × SimTime)) :
    (timersWithout k entry timers).filter (·.1 = k) = timersWithout k entry (timers.filter (·.1 = k)) := by
  unfold timersWithout
  split
  · rw [List.erase_filter]
  · rfl

theorem filter_timersWithout_ne (entry : ARPCacheEntry α) (timers : List (IPAddress × SimTime)) {other : IPAddress}
    (apart : other ≠ k) : (timersWithout k entry timers).filter (·.1 = other) = timers.filter (·.1 = other) := by
  unfold timersWithout
  split
  · exact filter_erase_timer timers _ apart
  · rfl

inductive Merged [DecidableEq α] (a : ARP α) (k : IPAddress) (now : SimTime) (mac : MACAddress) (recognized : Bool) :
    ARP α → List (SentPacket α) → Prop where
  | updates (entry : ARPCacheEntry α) (a' : ARP α) (retries : Int) (timer : Option SimTime)
      (same : entry.pendingPackets = (a.resolution k).waiting)
      (kept : ∀ entry', (a.resolution k).entry = some entry' → entry' = entry)
      (fresh : (a.resolution k).entry = none → entry.pending = false ∧ recognized = true) (affects : Affects k a a')
      (after : a'.resolution k = ⟨some ⟨entry.outputPort, false, mac, now, retries, timer, []⟩,
        timersWithout k entry (a.resolution k).timers, entry.pendingPackets.foldl List.erase (a.resolution k).queued⟩) :
      Merged a k now mac recognized a' (entry.pendingPackets.map (⟨·, entry.outputPort, some mac⟩))
  | ignores (none : (a.resolution k).entry = none) (stranger : recognized = false) : Merged a k now mac recognized a []

theorem mapM_sendPacketToNIC {outputPort : Int} {mac : MACAddress} {packets : List (OutboundPacket α)}
    {sent : List (SentPacket α)} (sends : packets.mapM (a.sendPacketToNIC · outputPort mac) = .ok sent) :
    sent = packets.map (⟨·, outputPort, some mac⟩) := by
  induction packets generalizing sent with
  | nil =>
      cases sends
      rfl
  | cons msg rest ih =>
      rw [List.mapM_cons] at sends
      obtain ⟨first, sending, remaining⟩ := bind_eq_ok.mp sends
      obtain ⟨others, sendsOthers, ends⟩ := bind_eq_ok.mp remaining
      obtain ⟨_, _, same⟩ := bind_eq_ok.mp sending
      cases same
      cases ends
      rw [ih sendsOthers]
      rfl

theorem merged_of_updates [DecidableEq α] {mac : MACAddress} {recognized : Bool} {sent : List (SentPacket α)}
    (mine : ∀ msg ∈ (a.resolution k).waiting, msg.nextHop = k)
    (same : entry.pendingPackets = (a.resolution k).waiting)
    (kept : ∀ entry', (a.resolution k).entry = some entry' → entry' = entry)
    (fresh : (a.resolution k).entry = none → entry.pending = false ∧ recognized = true)
    (updates : a.updateARPCache now k entry mac = .ok (a', sent)) : Merged a k now mac recognized a' sent := by
  obtain ⟨b, cancels, updates⟩ := bind_eq_ok.mp updates
  obtain ⟨others, sends, ends⟩ := bind_eq_ok.mp updates
  have packets : ∀ msg ∈ entry.pendingPackets, msg.nextHop = k := same ▸ mine
  have cancelled : b = { a with timers := timersWithout k entry a.timers } := by
    unfold cancelTimer at cancels
    unfold timersWithout
    cases pending : entry.pending with
    | false =>
        rw [pending] at cancels
        cases cancels
        rfl
    | true =>
        rw [pending] at cancels
        obtain ⟨time, found, ends⟩ := bind_eq_ok.mp cancels
        rw [deref_eq_ok] at found
        rw [found]
        cases ends
        rfl
  subst cancelled
  rw [mapM_sendPacketToNIC sends] at ends
  cases ends
  refine .updates entry _ (if entry.pending then 0 else entry.numRetries) (if entry.pending then none else entry.timer)
    same kept fresh (affects_of rfl ?_ ?_ ?_) ?_
  · exact fun other apart => StdMap.getElem?_insert_ne apart.symm
  · exact fun other apart => filter_timersWithout_ne entry a.timers apart
  · exact fun other apart => filter_remove_packets a.pendingQueue packets apart
  · unfold resolution
    dsimp only
    rw [StdMap.getElem?_insert_self, Lists.filter_foldl_erase, filter_timersWithout]

theorem merged_of_ok [DecidableEq α] {arp : ARPPacket} {inputPort : Int}
    (mine : ∀ msg ∈ (a.resolution arp.srcIPAddress).waiting, msg.nextHop = arp.srcIPAddress)
    (processes : a.processARPPacket env now arp inputPort = .ok (a', out)) :
    Merged a arp.srcIPAddress now arp.srcMACAddress (a.addressRecognized env arp.destIPAddress inputPort) a' out.packets ∧
      out.deleted = [] ∧ ∀ addr, out.requests addr = 0 := by
  obtain ⟨⟨b, packets⟩, merges, processes⟩ := bind_eq_ok.mp processes
  obtain ⟨arps, answers, ends⟩ := bind_eq_ok.mp processes
  cases ends
  have silent : ∀ addr, ARPOutput.requests (⟨packets, arps, []⟩ : ARPOutput α) addr = 0 := fun addr => by
    refine List.countP_eq_zero.mpr fun sent mem asks => ?_
    have request := (of_decide_eq_true asks).1
    split at answers
    · unfold answer at answers
      split at answers
      · obtain ⟨ie, _, answers⟩ := bind_eq_ok.mp answers
        obtain ⟨myMACAddress, _, answers⟩ := bind_eq_ok.mp answers
        obtain ⟨_, _, ends⟩ := bind_eq_ok.mp answers
        cases ends
        rw [List.mem_singleton.mp mem] at request
        exact absurd (show arpReply = arpRequest from request) (by decide)
      · split at answers
        · cases answers
          cases mem
        · cases answers
    · cases answers
      cases mem
  unfold mergeSender at merges
  split at merges
  · rename_i entry stored
    have waits : entry.pendingPackets = (a.resolution arp.srcIPAddress).waiting := by
      unfold Resolution.waiting resolution
      rw [stored]
    refine ⟨merged_of_updates mine waits (fun entry' stored' => Option.some.inj (stored'.symm.trans stored))
      (fun none => ?_) merges, rfl, silent⟩
    cases none.symm.trans stored
  · rename_i none
    have waits : [] = (a.resolution arp.srcIPAddress).waiting := by
      unfold Resolution.waiting resolution
      rw [none]
    split at merges
    · rename_i recognized
      exact ⟨merged_of_updates mine waits (fun entry' stored' => by cases none.symm.trans stored')
        (fun _ => ⟨rfl, recognized⟩) merges, rfl, silent⟩
    · rename_i stranger
      cases merges
      exact ⟨.ignores none (Bool.not_eq_true _ ▸ stranger), rfl, silent⟩

end ARP

end IPv6Suite
