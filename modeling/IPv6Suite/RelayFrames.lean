import IPv6Suite.MACRelayUnitBase

namespace IPv6Suite

open Lib

namespace MACRelayUnitBase

variable {u u' : MACRelayUnitBase} {now : SimTime} {address : MACAddress} {entry : AddressEntry} {portno : Int}

/-- No entry of the table is from the future. -/
def Past (u : MACRelayUnitBase) (now : SimTime) : Prop :=
  ∀ (address : MACAddress) (entry : AddressEntry), u.addresstable[address]? = some entry → entry.insertionTime ≤ now

/-- No entry of the table is older than that of the address, and all others stay. -/
structure Oldest (u u' : MACRelayUnitBase) (address : MACAddress) (entry : AddressEntry) : Prop where
  full : u.addresstable.size = u.addressTableSize
  least : ∀ (other : MACAddress) (entry' : AddressEntry), u.addresstable[other]? = some entry' →
    entry.insertionTime ≤ entry'.insertionTime
  stay : ∀ other ∈ u.addresstable, other ≠ address → other ∈ u'.addresstable

/-- Room is made with aged entries, or with an oldest one if there are none. -/
structure Room (u u' : MACRelayUnitBase) (now : SimTime) : Prop where
  settings : u' = { u with addresstable := u'.addresstable }
  kept : ∀ (address : MACAddress) (entry : AddressEntry), u'.addresstable[address]? = some entry →
    u.addresstable[address]? = some entry
  lost : ∀ (address : MACAddress) (entry : AddressEntry), u.addresstable[address]? = some entry → ¬ u.Aged now entry →
    address ∉ u'.addresstable → Oldest u u' address entry

theorem Room.refl (u : MACRelayUnitBase) (now : SimTime) : Room u u now :=
  ⟨rfl, fun _ _ => id, fun _ _ stored _ gone => (gone (StdMap.mem_iff_exists.mpr ⟨_, stored⟩)).elim⟩

theorem getElem?_removeAged : (u.removeAgedEntriesFromTable now).addresstable[address]? =
    u.addresstable[address]?.filter fun entry => ¬ u.Aged now entry := by
  exact Std.TreeMap.getElem?_filter'

theorem room_removeAged (u : MACRelayUnitBase) (now : SimTime) : Room u (u.removeAgedEntriesFromTable now) now where
  settings := rfl
  kept address entry stored := by
    rw [getElem?_removeAged] at stored
    exact (Option.filter_eq_some_iff.mp stored).1
  lost address entry stored young gone := by
    refine (gone (StdMap.mem_iff_exists.mpr ⟨entry, ?_⟩)).elim
    rw [getElem?_removeAged, stored]
    exact Option.filter_eq_some_iff.mpr ⟨rfl, decide_eq_true young⟩

theorem young_of_size (same : (u.removeAgedEntriesFromTable now).addresstable.size = u.addresstable.size)
    (stored : u.addresstable[address]? = some entry) : ¬ u.Aged now entry := by
  have all := Std.TreeMap.size_filter_eq_size_iff.mp same
  have mem : address ∈ u.addresstable := StdMap.mem_iff_exists.mpr ⟨entry, stored⟩
  have young := all address mem
  rw [Std.TreeMap.getElem?_eq_some_getElem mem] at stored
  rw [Option.some.inj stored] at young
  exact of_decide_eq_true young

theorem removeOldest_eq (past : u.Past now) (filled : u.addresstable.isEmpty = false) : ∃ oldest entry,
    u.removeOldestTableEntry now = { u with addresstable := u.addresstable.erase oldest } ∧
      u.addresstable[oldest]? = some entry ∧ ∀ (other : MACAddress) (entry' : AddressEntry),
        u.addresstable[other]? = some entry' → entry.insertionTime ≤ entry'.insertionTime := by
  have below : ∀ (key : MACAddress) (value : AddressEntry), u.addresstable[key]? = some value →
      value.insertionTime < now + 1 :=
    fun key value stored => (past key value stored).trans_lt (lt_add_one now)
  obtain ⟨oldest, entry, found, stored, least⟩ := earliest_toList u.addresstable filled below
  refine ⟨oldest, entry, ?_, stored, least⟩
  unfold removeOldestTableEntry
  rw [found]

theorem room_makeRoom (past : u.Past now) : Room u (u.makeRoom now) now := by
  unfold makeRoom
  split
  · rename_i full
    dsimp only
    have aged := room_removeAged u now
    split
    · rename_i still
      have same : (u.removeAgedEntriesFromTable now).addresstable.size = u.addresstable.size := still.trans full.2.symm
      have unchanged : ∀ (address : MACAddress) (entry : AddressEntry), u.addresstable[address]? = some entry →
          (u.removeAgedEntriesFromTable now).addresstable[address]? = some entry := fun address entry stored => by
        rw [getElem?_removeAged, stored]
        exact Option.filter_eq_some_iff.mpr ⟨rfl, decide_eq_true (young_of_size same stored)⟩
      have filled : (u.removeAgedEntriesFromTable now).addresstable.isEmpty = false := by
        rw [Std.TreeMap.isEmpty_eq_size_eq_zero, beq_eq_false_iff_ne, still]
        exact full.1
      obtain ⟨oldest, entry, removed, stored, least⟩ :=
        removeOldest_eq (fun address entry stored => past address entry (aged.kept address entry stored)) filled
      rw [removed]
      refine ⟨rfl, fun address entry stored => ?_, fun address entry' stored' _ gone => ?_⟩
      · by_cases own : oldest = address
        · subst own
          rw [StdMap.getElem?_erase_self] at stored
          cases stored
        · exact aged.kept address entry ((StdMap.getElem?_erase_ne own).symm.trans stored)
      · have mem : address ∈ (u.removeAgedEntriesFromTable now).addresstable :=
          StdMap.mem_iff_exists.mpr ⟨entry', unchanged address entry' stored'⟩
        have own : oldest = address := by
          by_contra apart
          exact gone (StdMap.mem_erase.mpr ⟨apart, mem⟩)
        subst own
        cases stored.symm.trans (unchanged oldest entry' stored')
        refine ⟨full.2, fun other value stored => least other value (unchanged other value stored),
          fun other inside apart => StdMap.mem_erase.mpr ⟨apart.symm, ?_⟩⟩
        obtain ⟨value, stored⟩ := StdMap.mem_iff_exists.mp inside
        exact StdMap.mem_iff_exists.mpr ⟨value, unchanged other value stored⟩
    · exact aged
  · exact Room.refl u now

theorem size_makeRoom_lt (past : u.Past now) (limited : u.addressTableSize ≠ 0)
    (full : u.addresstable.size ≤ u.addressTableSize) :
    (u.makeRoom now).addresstable.size < u.addressTableSize := by
  unfold makeRoom
  split
  · rename_i exact
    dsimp only
    have fewer : (u.removeAgedEntriesFromTable now).addresstable.size ≤ u.addresstable.size :=
      Std.TreeMap.size_filter_le_size
    split
    · rename_i still
      have filled : (u.removeAgedEntriesFromTable now).addresstable.isEmpty = false := by
        rw [Std.TreeMap.isEmpty_eq_size_eq_zero, beq_eq_false_iff_ne, still]
        exact limited
      obtain ⟨oldest, entry, removed, stored, -⟩ := removeOldest_eq
        (fun address entry stored => past address entry ((room_removeAged u now).kept address entry stored)) filled
      have one := StdMap.size_erase_of_mem (StdMap.mem_iff_exists.mpr ⟨entry, stored⟩)
      rw [removed]
      dsimp only
      omega
    · have limit : (u.removeAgedEntriesFromTable now).addressTableSize = u.addressTableSize := rfl
      omega
  · rename_i room
    have : u.addresstable.size ≠ u.addressTableSize := fun exact => room ⟨limited, exact⟩
    omega

theorem makeRoom_of_above (above : u.addressTableSize < u.addresstable.size) : u.makeRoom now = u :=
  if_neg fun full => Nat.ne_of_gt above full.2

/-- What the table has of other addresses after one was learned and others may have been forgotten -/
structure Learned (u u' : MACRelayUnitBase) (now : SimTime) (src : MACAddress) (portno : Int) : Prop where
  settings : u' = { u with addresstable := u'.addresstable }
  own : u'.addresstable[src]? = some ⟨portno, now⟩
  kept : ∀ (address : MACAddress) (entry : AddressEntry), address ≠ src → u'.addresstable[address]? = some entry →
    u.addresstable[address]? = some entry
  lost : ∀ (address : MACAddress) (entry : AddressEntry), address ≠ src → u.addresstable[address]? = some entry →
    ¬ u.Aged now entry → address ∉ u'.addresstable → src ∉ u.addresstable ∧ u.addresstable.size = u.addressTableSize ∧
      ∀ (other : MACAddress) (entry' : AddressEntry), u.addresstable[other]? = some entry' →
        entry.insertionTime ≤ entry'.insertionTime
  one : ∀ (address other : MACAddress) (entry entry' : AddressEntry), address ≠ src → other ≠ src →
    u.addresstable[address]? = some entry → u.addresstable[other]? = some entry' → ¬ u.Aged now entry →
    ¬ u.Aged now entry' → address ∉ u'.addresstable → other ∉ u'.addresstable → other = address

theorem learned_update (past : u.Past now) (src : MACAddress) (portno : Int) :
    Learned u (u.updateTableWithAddress now src portno) now src portno := by
  unfold updateTableWithAddress
  split
  · rename_i new
    have room := room_makeRoom past
    have beside : ∀ {address : MACAddress}, address ≠ src → ((u.makeRoom now).addresstable.insert src ⟨portno, now⟩)[address]? =
        (u.makeRoom now).addresstable[address]? := fun apart => StdMap.getElem?_insert_ne apart.symm
    have outside : ∀ {address : MACAddress}, address ∉ (u.makeRoom now).addresstable.insert src ⟨portno, now⟩ →
        address ∉ (u.makeRoom now).addresstable := fun gone inside => gone (StdMap.mem_insert.mpr (Or.inr inside))
    refine ⟨?_, StdMap.getElem?_insert_self, fun address entry apart stored => ?_,
      fun address entry apart stored young gone => ?_, fun address other entry entry' apart apart' stored stored' young young' gone gone' => ?_⟩
    · rw [room.settings]
    · exact room.kept address entry ((beside apart).symm.trans stored)
    · have oldest := room.lost address entry stored young (outside gone)
      exact ⟨new, oldest.full, oldest.least⟩
    · have oldest := room.lost address entry stored young (outside gone)
      by_contra different
      exact outside gone' (oldest.stay other (StdMap.mem_iff_exists.mpr ⟨entry', stored'⟩) different)
  · have gone : ∀ {address : MACAddress} {entry : AddressEntry}, u.addresstable[address]? = some entry →
        ¬ address ∉ u.addresstable.insert src ⟨portno, now⟩ :=
      fun stored gone => gone (StdMap.mem_insert.mpr (Or.inr (StdMap.mem_iff_exists.mpr ⟨_, stored⟩)))
    exact ⟨rfl, StdMap.getElem?_insert_self,
      fun address entry apart stored => (StdMap.getElem?_insert_ne apart.symm).symm.trans stored,
      fun address entry apart stored young out => (gone stored out).elim,
      fun address other entry entry' apart apart' stored stored' young young' out => (gone stored out).elim⟩

theorem Learned.forget {src dest : MACAddress} (learned : Learned u u' now src portno)
    (ageing : 0 < u.agingTime) (stored : u'.addresstable[dest]? = some entry) (aged : u'.Aged now entry) :
    Learned u { u' with addresstable := u'.addresstable.erase dest } now src portno := by
  have same : u'.agingTime = u.agingTime := by rw [learned.settings]
  have apart : dest ≠ src := fun own => by
    subst own
    cases stored.symm.trans learned.own
    unfold Aged at aged
    rw [same] at aged
    exact absurd aged (not_le.mpr (lt_add_of_pos_right now ageing))
  have inside : ∀ {address : MACAddress} {entry : AddressEntry}, address ≠ src →
      u.addresstable[address]? = some entry → ¬ u.Aged now entry → address ∉ u'.addresstable.erase dest →
        address ∉ u'.addresstable := fun {address} {value} other held young gone mem => by
    have own : dest = address := by
      by_contra different
      exact gone (StdMap.mem_erase.mpr ⟨different, mem⟩)
    subst own
    cases (learned.kept dest entry other stored).symm.trans held
    unfold Aged at aged
    rw [same] at aged
    exact young aged
  refine ⟨?_, (StdMap.getElem?_erase_ne apart).trans learned.own, fun address value other held => ?_,
    fun address value other held young gone => learned.lost address value other held young (inside other held young gone),
    fun address address' value value' other other' held held' young young' gone gone' =>
      learned.one address address' value value' other other' held held' young young' (inside other held young gone)
        (inside other' held' young' gone')⟩
  · rw [learned.settings]
  · by_cases own : dest = address
    · subst own
      rw [StdMap.getElem?_erase_self] at held
      cases held
    · exact learned.kept address value other ((StdMap.getElem?_erase_ne own).symm.trans held)

variable {src : MACAddress}

theorem size_update_le (past : u.Past now) (limited : u.addressTableSize ≠ 0)
    (full : u.addresstable.size ≤ u.addressTableSize) :
    (u.updateTableWithAddress now src portno).addresstable.size ≤ u.addressTableSize := by
  unfold updateTableWithAddress
  split
  · have room := size_makeRoom_lt past limited full
    have more := Std.TreeMap.size_insert_le (t := (u.makeRoom now).addresstable) (k := src)
      (v := (⟨portno, now⟩ : AddressEntry))
    dsimp only
    omega
  · rename_i known
    dsimp only
    rw [Std.TreeMap.size_insert, if_pos (Std.TreeMap.contains_iff_mem.mpr (not_not.mp known))]
    exact full

theorem size_update_of_above (new : src ∉ u.addresstable) (above : u.addressTableSize < u.addresstable.size) :
    (u.updateTableWithAddress now src portno).addresstable.size = u.addresstable.size + 1 := by
  unfold updateTableWithAddress
  rw [if_pos new, makeRoom_of_above above]
  dsimp only
  rw [Std.TreeMap.size_insert, if_neg (mt Std.TreeMap.contains_iff_mem.mp new)]

/-- What is done with a frame once its source is learned, by what the table has of its destination -/
inductive Dispatched (u : MACRelayUnitBase) (now : SimTime) (frame : EtherFrame) (inputport : Nat) :
    MACRelayUnitBase → List (Nat × EtherFrame) → Prop where
  | broadcast (all : frame.dest.isBroadcast) : Dispatched u now frame inputport u (u.broadcastFrame frame inputport)
  | unknown (single : ¬ frame.dest.isBroadcast) (none : u.addresstable[frame.dest]? = none) :
      Dispatched u now frame inputport u (u.broadcastFrame frame inputport)
  | aged (single : ¬ frame.dest.isBroadcast) (entry : AddressEntry) (stored : u.addresstable[frame.dest]? = some entry)
      (aged : u.Aged now entry) : Dispatched u now frame inputport
        { u with addresstable := u.addresstable.erase frame.dest } (u.broadcastFrame frame inputport)
  | input (single : ¬ frame.dest.isBroadcast) (entry : AddressEntry) (stored : u.addresstable[frame.dest]? = some entry)
      (young : ¬ u.Aged now entry) (same : entry.portno = inputport) : Dispatched u now frame inputport u []
  | output (single : ¬ frame.dest.isBroadcast) (entry : AddressEntry) (stored : u.addresstable[frame.dest]? = some entry)
      (young : ¬ u.Aged now entry) (other : entry.portno ≠ inputport) (port : 0 ≤ entry.portno)
      (fits : entry.portno < u.numPorts) : Dispatched u now frame inputport u [(entry.portno.toNat, frame)]
  | noPort (single : ¬ frame.dest.isBroadcast) (entry : AddressEntry) (stored : u.addresstable[frame.dest]? = some entry)
      (young : ¬ u.Aged now entry) (none : entry.portno < 0) :
      Dispatched u now frame inputport u (u.broadcastFrame frame inputport)

theorem handleAndDispatchFrame_dispatched (u : MACRelayUnitBase) (now : SimTime) (frame : EtherFrame) (inputport : Nat) :
    Ensures (fun _ => ∃ entry, (u.updateTableWithAddress now frame.src inputport).addresstable[frame.dest]? = some entry ∧
        ((u.updateTableWithAddress now frame.src inputport).numPorts : Int) ≤ entry.portno)
      (fun after => Dispatched (u.updateTableWithAddress now frame.src inputport) now frame inputport after.1 after.2)
      (u.handleAndDispatchFrame now frame inputport) := by
  unfold handleAndDispatchFrame
  generalize u.updateTableWithAddress now frame.src inputport = u
  dsimp only
  refine Ensures.ite (fun all => Ensures.ok (.broadcast all)) fun single => ?_
  cases stored : u.addresstable[frame.dest]? with
  | none =>
      have unknown : u.getPortForAddress now frame.dest = (-1, u) := by
        unfold getPortForAddress
        rw [stored]
      rw [unknown]
      refine Ensures.ite (fun negative => ?_) fun _ => Ensures.ite (fun positive => ?_) fun _ =>
        Ensures.ok (.unknown single stored)
      · dsimp only at negative
        omega
      · dsimp only at positive
        omega
  | some entry =>
      by_cases aged : u.Aged now entry
      · have ignored : u.getPortForAddress now frame.dest =
            (-1, { u with addresstable := u.addresstable.erase frame.dest }) := by
          unfold getPortForAddress
          rw [stored]
          exact if_pos aged
        rw [ignored]
        refine Ensures.ite (fun negative => ?_) fun _ => Ensures.ite (fun positive => ?_) fun _ =>
          Ensures.ok (.aged single entry stored aged)
        · dsimp only at negative
          omega
        · dsimp only at positive
          omega
      · have found : u.getPortForAddress now frame.dest = (entry.portno, u) := by
          unfold getPortForAddress
          rw [stored]
          exact if_neg aged
        rw [found]
        refine Ensures.ite (fun same => Ensures.ok (.input single entry stored aged same.symm)) fun other =>
          Ensures.ite (fun port => ?_) fun negative => Ensures.ok (.noPort single entry stored aged (not_le.mp negative))
        dsimp only at port other ⊢
        unfold send
        split
        · rename_i fits
          exact Ensures.ok (.output single entry stored aged (Ne.symm other) port fits)
        · rename_i beyond
          exact ⟨entry, rfl, not_lt.mp beyond⟩

variable {frame : EtherFrame} {inputport : Nat} {sent : List (Nat × EtherFrame)}

theorem Dispatched.learned {after : MACRelayUnitBase} (dispatched : Dispatched u' now frame inputport after sent)
    (ageing : 0 < u.agingTime) (learned : Learned u u' now src portno) : Learned u after now src portno := by
  cases dispatched with
  | broadcast | unknown | input | output | noPort => exact learned
  | aged single entry stored aged => exact learned.forget ageing stored aged

theorem Dispatched.size {after : MACRelayUnitBase} (dispatched : Dispatched u now frame inputport after sent) :
    after.addresstable.size ≤ u.addresstable.size ∧ u.addresstable.size ≤ after.addresstable.size + 1 := by
  cases dispatched with
  | broadcast | unknown | input | output | noPort => exact ⟨Nat.le_refl _, Nat.le_succ _⟩
  | aged single entry stored aged =>
      have one := StdMap.size_erase_of_mem (StdMap.mem_iff_exists.mpr ⟨entry, stored⟩)
      dsimp only
      omega

end MACRelayUnitBase

structure FrameArrival where
  now : SimTime
  frame : EtherFrame
  inputport : Nat

/-- The unit with where and when each address was last seen as a source, and whether that entry was evicted -/
structure RelayHistory where
  relay : MACRelayUnitBase
  clock : SimTime
  lastSeen : MACAddress → Option AddressEntry
  evicted : MACAddress → Bool

namespace RelayHistory

/-- Preloaded addresses are seen at time 0. -/
def start (relay : MACRelayUnitBase) : RelayHistory :=
  ⟨relay, 0, fun address => relay.addresstable[address]?, fun _ => false⟩

/-- The entry of the address is removed, though it has not aged. -/
def Evicts (before after : MACRelayUnitBase) (now : SimTime) (address : MACAddress) : Prop :=
  (∃ entry, before.addresstable[address]? = some entry ∧ ¬ before.Aged now entry) ∧ address ∉ after.addresstable
deriving Decidable

/-- The history after a frame, with the unit as it is then -/
def next (h : RelayHistory) (e : FrameArrival) (relay : MACRelayUnitBase) : RelayHistory where
  relay := relay
  clock := e.now
  lastSeen := Function.update h.lastSeen e.frame.src (some ⟨e.inputport, e.now⟩)
  evicted address := address ≠ e.frame.src && (h.evicted address || Evicts h.relay relay e.now address)

def outcome (h : RelayHistory) (e : FrameArrival) : Exec (RelayHistory × List (Nat × EtherFrame)) :=
  (h.relay.handleAndDispatchFrame e.now e.frame e.inputport).map fun after => (h.next e after.1, after.2)

def step (h : RelayHistory) (e : FrameArrival) : Exec RelayHistory :=
  (h.outcome e).map Prod.fst

/-- Times do not decrease, and the frame comes from a port of the unit. -/
def Admits (h : RelayHistory) (e : FrameArrival) : Prop :=
  h.clock ≤ e.now ∧ e.inputport < h.relay.numPorts
deriving Decidable

/-- The port at which the address was last seen, less than `agingTime` ago, if its entry was not evicted. A line of
the file with a negative number names no port. -/
def portOf (h : RelayHistory) (address : MACAddress) : Option Int :=
  ((h.lastSeen address).filter fun entry =>
    ¬ h.relay.Aged h.clock entry ∧ h.evicted address = false ∧ 0 ≤ entry.portno).map AddressEntry.portno

/-- One copy to every port except the input port -/
def Floods (numPorts : Nat) (e : FrameArrival) (sent : List (Nat × EtherFrame)) : Prop :=
  sent.Nodup ∧ ∀ copy, copy ∈ sent ↔ copy.1 < numPorts ∧ copy.1 ≠ e.inputport ∧ copy.2 = e.frame

def Delivered (h : RelayHistory) (e : FrameArrival) (sent : List (Nat × EtherFrame)) : Prop :=
  if e.frame.dest.isBroadcast then Floods h.relay.numPorts e sent
  else match h.portOf e.frame.dest with
    | none => Floods h.relay.numPorts e sent
    | some port => sent = if port = e.inputport then [] else [(port.toNat, e.frame)]

/-- At most one entry is evicted, when the table is full and for a new address, and none in it is older. -/
def EvictsOldest (before after : MACRelayUnitBase) (e : FrameArrival) : Prop :=
  ∀ address, Evicts before after e.now address →
    e.frame.src ∉ before.addresstable ∧ before.addresstable.size = before.addressTableSize ∧
    (∀ other, Evicts before after e.now other → other = address) ∧
    ∀ entry, before.addresstable[address]? = some entry → ∀ (other : MACAddress) (entry' : AddressEntry),
      before.addresstable[other]? = some entry' → entry.insertionTime ≤ entry'.insertionTime

/-- The frame goes where the history says, and never back. Only a port of the file that the unit does not have
stops the simulation. -/
def Kept (h : RelayHistory) (e : FrameArrival) : Prop :=
  Ensures (fun _ => ∃ entry ∈ h.lastSeen e.frame.dest, (h.relay.numPorts : Int) ≤ entry.portno)
    (fun after => after.1.Delivered e after.2 ∧ (∀ copy ∈ after.2, copy.1 ≠ e.inputport) ∧
      EvictsOldest h.relay after.1.relay e) (h.outcome e)

/-- Once a new address is added, a bounded table is within its bound. -/
def Bounded (h : RelayHistory) (e : FrameArrival) (h' : RelayHistory) : Prop :=
  h.relay.addressTableSize ≠ 0 → e.frame.src ∉ h.relay.addresstable →
    h'.relay.addresstable.size ≤ h.relay.addressTableSize

/-- A bounded table is within its bound when a new address is to be added. -/
def Sound (h : RelayHistory) (e : FrameArrival) : Prop :=
  h.relay.addressTableSize ≠ 0 → e.frame.src ∉ h.relay.addresstable →
    h.relay.addresstable.size ≤ h.relay.addressTableSize

/-- The table has the last sightings, and all of them that are neither aged nor evicted. -/
structure Follows (h : RelayHistory) : Prop where
  ageing : 0 < h.relay.agingTime
  past : ∀ (address : MACAddress) (entry : AddressEntry), h.lastSeen address = some entry →
    entry.insertionTime ≤ h.clock
  recorded : ∀ (address : MACAddress) (entry : AddressEntry), h.relay.addresstable[address]? = some entry →
    h.lastSeen address = some entry
  kept : ∀ (address : MACAddress) (entry : AddressEntry), h.lastSeen address = some entry →
    ¬ h.relay.Aged h.clock entry → h.evicted address = false → h.relay.addresstable[address]? = some entry
  gone : ∀ address, h.evicted address = true → address ∉ h.relay.addresstable

variable {h : RelayHistory} {e : FrameArrival} {relay : MACRelayUnitBase}

theorem follows_next (follows : h.Follows) (later : h.clock ≤ e.now)
    (learned : h.relay.Learned relay e.now e.frame.src e.inputport) : (h.next e relay).Follows := by
  have same : relay.agingTime = h.relay.agingTime := by rw [learned.settings]
  have beside : ∀ {address : MACAddress}, address ≠ e.frame.src → (h.next e relay).lastSeen address = h.lastSeen address :=
    fun apart => Function.update_of_ne apart ..
  have own : (h.next e relay).lastSeen e.frame.src = some ⟨e.inputport, e.now⟩ := Function.update_self ..
  refine ⟨same ▸ follows.ageing, fun address entry seen => ?_, fun address entry stored => ?_,
    fun address entry seen young staying => ?_, fun address gone => ?_⟩
  · by_cases source : address = e.frame.src
    · subst source
      cases own.symm.trans seen
      exact le_refl _
    · exact (follows.past address entry ((beside source).symm.trans seen)).trans later
  · by_cases source : address = e.frame.src
    · subst source
      exact own.trans (learned.own.symm.trans stored)
    · exact (beside source).trans (follows.recorded address entry (learned.kept address entry source stored))
  · by_cases source : address = e.frame.src
    · subst source
      exact learned.own.trans (own.symm.trans seen)
    · rw [beside source] at seen
      have young : ¬ h.relay.Aged e.now entry := fun aged => young (by
        unfold MACRelayUnitBase.Aged at aged ⊢
        rw [show (h.next e relay).relay.agingTime = h.relay.agingTime from same]
        exact aged)
      have before : ¬ h.relay.Aged h.clock entry := fun aged => young (aged.trans later)
      obtain ⟨staying, notEvicts⟩ : h.evicted address = false ∧ ¬ Evicts h.relay relay e.now address := by
        have not := staying
        change (decide (address ≠ e.frame.src) && (h.evicted address || decide (Evicts h.relay relay e.now address))) =
          false at not
        rw [decide_eq_true source, Bool.true_and, Bool.or_eq_false_iff, decide_eq_false_iff_not] at not
        exact not
      have stored := follows.kept address entry seen before staying
      obtain ⟨entry', stored'⟩ := StdMap.mem_iff_exists.mp
        (not_not.mp fun out => notEvicts ⟨⟨entry, stored, young⟩, out⟩)
      have same := stored.symm.trans (learned.kept address entry' source stored')
      cases same
      exact stored'
  · change (decide (address ≠ e.frame.src) && (h.evicted address || decide (Evicts h.relay relay e.now address))) =
      true at gone
    rw [Bool.and_eq_true, Bool.or_eq_true, decide_eq_true_iff, decide_eq_true_iff] at gone
    obtain ⟨source, before | now⟩ := gone
    · intro inside
      obtain ⟨entry, stored⟩ := StdMap.mem_iff_exists.mp inside
      exact follows.gone address before (StdMap.mem_iff_exists.mpr ⟨entry, learned.kept address entry source stored⟩)
    · exact now.2

theorem evictsOldest_of_learned (learned : h.relay.Learned relay e.now e.frame.src e.inputport) :
    EvictsOldest h.relay relay e := by
  rintro address ⟨⟨entry, stored, young⟩, gone⟩
  have apart : ∀ {address : MACAddress}, address ∉ relay.addresstable → address ≠ e.frame.src := fun gone own => by
    subst own
    exact gone (StdMap.mem_iff_exists.mpr ⟨_, learned.own⟩)
  obtain ⟨new, full, least⟩ := learned.lost address entry (apart gone) stored young gone
  refine ⟨new, full, ?_, fun entry' stored' => ?_⟩
  · rintro other ⟨⟨entry', stored', young'⟩, gone'⟩
    exact learned.one address other entry entry' (apart gone) (apart gone') stored stored' young young' gone gone'
  · cases stored.symm.trans stored'
    exact least

theorem floods_broadcastFrame (u : MACRelayUnitBase) (e : FrameArrival) :
    Floods u.numPorts e (u.broadcastFrame e.frame e.inputport) := by
  refine ⟨List.Nodup.map (fun a b same => congrArg Prod.fst same) (List.nodup_range.filter _), fun copy => ?_⟩
  rw [MACRelayUnitBase.broadcastFrame, List.mem_map]
  constructor
  · rintro ⟨port, mem, rfl⟩
    rw [List.mem_filter, List.mem_range, decide_eq_true_iff] at mem
    exact ⟨mem.1, mem.2, rfl⟩
  · rintro ⟨fits, other, same⟩
    exact ⟨copy.1, List.mem_filter.mpr ⟨List.mem_range.mpr fits, decide_eq_true other⟩, Prod.ext rfl same.symm⟩

theorem portOf_eq_none (follows : h.Follows) {address : MACAddress}
    (unknown : ∀ entry : AddressEntry, h.relay.addresstable[address]? = some entry → ¬ 0 ≤ entry.portno) :
    h.portOf address = none := by
  unfold portOf
  rw [Option.map_eq_none_iff, Option.filter_eq_none_iff]
  intro entry seen holds
  obtain ⟨young, staying, port⟩ := of_decide_eq_true holds
  exact unknown entry (follows.kept address entry seen young staying) port

theorem portOf_eq_some (follows : h.Follows) {address : MACAddress} {entry : AddressEntry}
    (stored : h.relay.addresstable[address]? = some entry) (young : ¬ h.relay.Aged h.clock entry)
    (port : 0 ≤ entry.portno) : h.portOf address = some entry.portno := by
  have staying : h.evicted address = false := by
    cases gone : h.evicted address with
    | false => rfl
    | true => exact (follows.gone address gone (StdMap.mem_iff_exists.mpr ⟨entry, stored⟩)).elim
  have passes : ((h.lastSeen address).filter fun entry =>
      ¬ h.relay.Aged h.clock entry ∧ h.evicted address = false ∧ 0 ≤ entry.portno) = some entry :=
    Option.filter_eq_some_iff.mpr ⟨follows.recorded address entry stored, decide_eq_true ⟨young, staying, port⟩⟩
  exact congrArg (Option.map AddressEntry.portno) passes

open MACRelayUnitBase in
theorem delivered_of_dispatched {u : MACRelayUnitBase} {sent : List (Nat × EtherFrame)}
    (dispatched : Dispatched u e.now e.frame e.inputport relay sent) (follows : (h.next e relay).Follows) :
    (h.next e relay).Delivered e sent := by
  cases dispatched with
  | broadcast all =>
      unfold Delivered
      rw [if_pos all]
      exact floods_broadcastFrame relay e
  | unknown single none =>
      unfold Delivered
      rw [if_neg single, portOf_eq_none follows fun entry stored => by cases none.symm.trans stored]
      exact floods_broadcastFrame relay e
  | aged single entry stored aged =>
      unfold Delivered
      rw [if_neg single, portOf_eq_none follows fun entry stored => by cases StdMap.getElem?_erase_self.symm.trans stored]
      exact floods_broadcastFrame u e
  | input single entry stored young same =>
      unfold Delivered
      rw [if_neg single, portOf_eq_some follows stored young (by omega)]
      exact (if_pos same).symm
  | output single entry stored young other port =>
      unfold Delivered
      rw [if_neg single, portOf_eq_some follows stored young port]
      exact (if_neg other).symm
  | noPort single entry stored young none =>
      unfold Delivered
      rw [if_neg single, portOf_eq_none follows fun entry' stored' => by
        cases stored.symm.trans stored'
        exact not_le.mpr none]
      exact floods_broadcastFrame relay e

open MACRelayUnitBase in
theorem never_back {u : MACRelayUnitBase} {sent : List (Nat × EtherFrame)}
    (dispatched : Dispatched u e.now e.frame e.inputport relay sent) : ∀ copy ∈ sent, copy.1 ≠ e.inputport := by
  have flood : ∀ copy ∈ u.broadcastFrame e.frame e.inputport, copy.1 ≠ e.inputport := fun copy mem =>
    ((floods_broadcastFrame u e).2 copy |>.mp mem).2.1
  cases dispatched with
  | broadcast | unknown | aged | noPort => exact flood
  | input => nofun
  | output single entry stored young other port =>
      intro copy mem
      rw [List.mem_singleton.mp mem]
      dsimp only
      omega

theorem outcome_ensures (follows : h.Follows) (admits : h.Admits e) :
    Ensures (fun _ => ∃ entry ∈ h.lastSeen e.frame.dest, (h.relay.numPorts : Int) ≤ entry.portno)
      (fun after => after.1.Follows ∧ after.1.Delivered e after.2 ∧ (∀ copy ∈ after.2, copy.1 ≠ e.inputport) ∧
        EvictsOldest h.relay after.1.relay e ∧ (h.Bounded e after.1 ↔ h.Sound e) ∧
        after.1.relay.addressTableSize = h.relay.addressTableSize ∧
        (h.relay.addressTableSize ≠ 0 → h.relay.addresstable.size ≤ h.relay.addressTableSize →
          after.1.relay.addresstable.size ≤ h.relay.addressTableSize)) (h.outcome e) := by
  have past : h.relay.Past e.now := fun address entry stored =>
    (follows.past address entry (follows.recorded address entry stored)).trans admits.1
  have updated := MACRelayUnitBase.learned_update past e.frame.src e.inputport
  have within := @MACRelayUnitBase.size_update_le h.relay e.now e.inputport e.frame.src past
  have above := @MACRelayUnitBase.size_update_of_above h.relay e.now e.inputport e.frame.src
  refine Ensures.map (Ensures.mono (h.relay.handleAndDispatchFrame_dispatched e.now e.frame e.inputport)
    (fun after dispatched => ?_) ?_)
  · have learned := dispatched.learned follows.ageing updated
    have goesOn := follows_next follows admits.1 learned
    have sizes := dispatched.size
    refine ⟨goesOn, delivered_of_dispatched dispatched goesOn, never_back dispatched, evictsOldest_of_learned learned,
      ⟨fun bounded limited new => ?_, fun sound limited new => ?_⟩, ?_, fun limited full => ?_⟩
    · by_contra grown
      have more := above new (not_le.mp grown)
      have bound : after.1.addresstable.size ≤ h.relay.addressTableSize := bounded limited new
      omega
    · exact sizes.1.trans (within limited (sound limited new))
    · change after.1.addressTableSize = _
      rw [learned.settings]
    · exact sizes.1.trans (within limited full)
  · rintro - ⟨entry, stored, beyond⟩
    have ports : (h.relay.updateTableWithAddress e.now e.frame.src e.inputport).numPorts = h.relay.numPorts := by
      rw [updated.settings]
    rw [ports] at beyond
    have fits := admits.2
    by_cases source : e.frame.dest = e.frame.src
    · rw [source, updated.own] at stored
      cases stored
      dsimp only at beyond
      omega
    · exact ⟨entry, follows.recorded _ entry (updated.kept _ entry source stored), beyond⟩

end RelayHistory

theorem insertionTime_readAddressTable {file : List Char} {addresstable : AddressTable}
    (reads : readAddressTable file = .ok addresstable) (address : MACAddress) (entry : AddressEntry)
    (stored : addresstable[address]? = some entry) : entry.insertionTime = 0 := by
  have lines : ∀ (lines : List (List Char)) (before after : AddressTable), lines.foldlM addTableLine before = .ok after →
      (∀ (address : MACAddress) (entry : AddressEntry), before[address]? = some entry → entry.insertionTime = 0) →
        ∀ (address : MACAddress) (entry : AddressEntry), after[address]? = some entry → entry.insertionTime = 0 := by
    intro lines
    induction lines with
    | nil =>
        intro before after ends zero
        cases ends
        exact zero
    | cons line rest ih =>
        intro before after ends zero
        obtain ⟨middle, adds, ends⟩ := bind_eq_ok.mp ends
        refine ih middle after ends fun address entry stored => ?_
        unfold addTableLine at adds
        split at adds
        · cases adds
          exact zero address entry stored
        · split at adds
          · cases adds
            exact zero address entry stored
          · split at adds
            · cases adds
            · obtain ⟨added, _, ends⟩ := bind_eq_ok.mp adds
              cases ends
              by_cases own : added = address
              · subst own
                cases StdMap.getElem?_insert_self.symm.trans stored
                rfl
              · exact zero address entry ((StdMap.getElem?_insert_ne own).symm.trans stored)
  exact lines _ ∅ addresstable reads (fun address entry stored => by cases Std.TreeMap.getElem?_emptyc.symm.trans stored)
    address entry stored

namespace RelayHistory

theorem follows_start {numPorts : Nat} {addressTableSize : Int} {agingTime : SimTime} {file : Option (List Char)}
    {relay : MACRelayUnitBase} (starts : MACRelayUnitBase.start numPorts addressTableSize agingTime file = .ok relay) :
    (start relay).Follows := by
  obtain ⟨addresstable, reads, ends⟩ := bind_eq_ok.mp starts
  cases ends
  refine ⟨?_, fun address entry stored => ?_, fun address entry stored => stored, fun address entry stored _ _ => stored,
    nofun⟩
  · change 0 < if agingTime > 0 then agingTime else 10
    split
    · assumption
    · exact by decide +kernel
  · cases file with
    | none =>
        cases reads
        cases Std.TreeMap.getElem?_emptyc.symm.trans stored
    | some file => exact le_of_eq (insertionTime_readAddressTable reads address entry stored)

theorem follows_step {h h' : RelayHistory} {e : FrameArrival} (follows : h.Follows) (admits : h.Admits e)
    (steps : h.step e = .ok h') : h'.Follows ∧ h'.relay.addressTableSize = h.relay.addressTableSize ∧
      (h.relay.addressTableSize ≠ 0 → h.relay.addresstable.size ≤ h.relay.addressTableSize →
        h'.relay.addresstable.size ≤ h.relay.addressTableSize) := by
  obtain ⟨after, outcomes, rfl⟩ := map_eq_ok steps
  obtain ⟨follows, -, -, -, -, same, within⟩ := Ensures.of_ok (outcome_ensures follows admits) outcomes
  exact ⟨follows, same, within⟩

end RelayHistory

/-- In every run from a preloaded table, each frame goes where its destination was last seen, and is never sent back,
only an oldest entry is evicted, and the table is within its bound after an address is added exactly if it was
before. So it always is if the preloaded table is. -/
theorem relay_frames {numPorts : Nat} {addressTableSize : Int} {agingTime : SimTime} {file : Option (List Char)}
    {relay : MACRelayUnitBase} (starts : MACRelayUnitBase.start numPorts addressTableSize agingTime file = .ok relay)
    {es : List FrameArrival} {h : RelayHistory}
    (runs : Runs RelayHistory.step RelayHistory.Admits (.start relay) es h) :
    (∀ e, h.Admits e → h.Kept e ∧ ∀ h', h.step e = .ok h' → (h.Bounded e h' ↔ h.Sound e)) ∧
      (relay.addressTableSize ≠ 0 → relay.addresstable.size ≤ relay.addressTableSize →
        h.relay.addresstable.size ≤ relay.addressTableSize) := by
  obtain ⟨follows, same, within⟩ := runs.invariant (fun h => h.Follows ∧
      h.relay.addressTableSize = relay.addressTableSize ∧ (relay.addressTableSize ≠ 0 →
        relay.addresstable.size ≤ relay.addressTableSize → h.relay.addresstable.size ≤ relay.addressTableSize))
    (fun h e h' ⟨follows, same, within⟩ admits steps => by
      obtain ⟨follows', same', within'⟩ := RelayHistory.follows_step follows admits steps
      exact ⟨follows', same'.trans same, fun limited full => same ▸ within' (same ▸ limited) (same ▸ within limited full)⟩)
    ⟨RelayHistory.follows_start starts, rfl, fun _ => id⟩
  refine ⟨fun e admits => ?_, within⟩
  have ensures := RelayHistory.outcome_ensures follows admits
  refine ⟨ensures.imp fun after both => ⟨both.2.1, both.2.2.1, both.2.2.2.1⟩, fun h' steps => ?_⟩
  obtain ⟨after, outcomes, rfl⟩ := map_eq_ok steps
  exact (Ensures.of_ok ensures outcomes).2.2.2.2.1

/-- Two stations behind the ports 1 and 2 -/
def exampleTableFile : List Char :=
  "# stations\n0000000000AA 1\n0000000000BB 2\n".toList

def exampleRelayFrame (dest src : MACAddress) : EtherFrame := ⟨.ethFrame, dest, src, 512, false⟩

/-- A frame to a preloaded station, one that evicts its entry, and one to it that is then sent everywhere. -/
theorem relay_frames_evicts : ∃ relay es h, MACRelayUnitBase.start 4 2 60 (some exampleTableFile) = .ok relay ∧
    Runs RelayHistory.step RelayHistory.Admits (.start relay) es h ∧ h.evicted 0xAA = true ∧ h.portOf 0xBB = some 2 ∧
      h.relay.addresstable.size ≤ 2 := by
  have checked : (do
      let relay ← MACRelayUnitBase.start 4 2 60 (some exampleTableFile)
      let h ← run (fun h e => Exec.assert (h.Admits e) >>= fun _ => h.step e) (RelayHistory.start relay)
        [⟨1, exampleRelayFrame 0xAA 0xBB, 2⟩, ⟨2, exampleRelayFrame 0xBB 0xCC, 3⟩, ⟨3, exampleRelayFrame 0xAA 0xCC, 3⟩]
      return decide (relay.addressTableSize = 2 ∧ relay.addresstable.size = 2 ∧ h.evicted 0xAA = true ∧
        h.portOf 0xBB = some 2) : Exec Bool) = .ok true := by
    decide +kernel
  obtain ⟨relay, starts, runs⟩ := bind_eq_ok.mp checked
  obtain ⟨h, runs, same⟩ := bind_eq_ok.mp runs
  obtain ⟨limit, full, evicted, port⟩ := of_decide_eq_true (Except.ok.inj same)
  have admitted := Runs.of_checked runs
  have within := (relay_frames starts admitted).2
  rw [limit, full] at within
  exact ⟨relay, _, h, starts, admitted, evicted, port, within (by decide) (le_refl _)⟩

/-- With two preloaded addresses and a table of one entry, a third address is added. -/
theorem relay_frames_fails : ∃ relay es h, MACRelayUnitBase.start 4 1 60 (some exampleTableFile) = .ok relay ∧
    relay.addressTableSize = 1 ∧ Runs RelayHistory.step RelayHistory.Admits (.start relay) es h ∧
      ¬ (∀ e, h.Admits e → ∀ h', h.step e = .ok h' → h.Bounded e h') := by
  have checked : (do
      let relay ← MACRelayUnitBase.start 4 1 60 (some exampleTableFile)
      let h' ← (RelayHistory.start relay).step ⟨1, exampleRelayFrame 0xAA 0xCC, 3⟩
      return decide (relay.addressTableSize = 1 ∧ (RelayHistory.start relay).Admits ⟨1, exampleRelayFrame 0xAA 0xCC, 3⟩ ∧
        0xCC ∉ relay.addresstable ∧ h'.relay.addresstable.size = 3) : Exec Bool) = .ok true := by
    decide +kernel
  obtain ⟨relay, starts, steps⟩ := bind_eq_ok.mp checked
  obtain ⟨h', steps, same⟩ := bind_eq_ok.mp steps
  obtain ⟨limit, admits, new, size⟩ := of_decide_eq_true (Except.ok.inj same)
  refine ⟨relay, [], .start relay, starts, limit, .nil _, fun bounded => ?_⟩
  have bound := bounded _ admits h' steps (limit ▸ Nat.one_ne_zero) new
  rw [size, show (RelayHistory.start relay).relay.addressTableSize = 1 from limit] at bound
  exact absurd bound (by decide)

end IPv6Suite
