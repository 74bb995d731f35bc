import IPv6Suite.Lib.Exec
import IPv6Suite.NDEntry

namespace IPv6Suite

open Lib

/-- A node of the prefix list: its address is what the expiry list keeps. -/
structure PrefixNode where
  ptr : Ptr
  entry : PrefixEntry
  ifIndex : Nat
deriving DecidableEq

/-- The conceptual data structures. A shared pointer is the object stored with its
owner, a weak pointer an optional `Ptr`; `held` are the neighbours owned elsewhere. -/
structure IPv6CDS where
  routers : List (Ptr × RouterEntry)
  prefixList : StdMap IPv6Address PrefixNode IPv6Address.lt
  neighbourCache : StdMap Ipv6Addr (Ptr × NeighbourEntry) Ipv6Addr.lt
  destCache : StdMap IPv6Address DestinationEntry IPv6Address.lt
  held : List (Ptr × NeighbourEntry)
  next : Ptr

namespace IPv6CDS

def empty : IPv6CDS := ⟨[], ∅, ∅, ∅, [], 0⟩

/-- The object behind a pointer, looked up among the owners. -/
def deref (cds : IPv6CDS) (p : Ptr) : Option NeighbourEntry :=
  ((cds.routers.find? (·.1 = p)).map (·.2.toNeighbourEntry)).or
    (((cds.neighbourCache.toList.find? (·.2.1 = p)).map (·.2.2)).or
      ((cds.held.find? (·.1 = p)).map (·.2)))

def lock (cds : IPv6CDS) (weak : Option Ptr) : Option NeighbourEntry := weak.bind cds.deref

/-- Write through a neighbour pointer. -/
def modify (cds : IPv6CDS) (p : Ptr) (f : NeighbourEntry → NeighbourEntry) : IPv6CDS :=
  { cds with
    routers := cds.routers.map fun r =>
      if r.1 = p then (r.1, { r.2 with toNeighbourEntry := f r.2.toNeighbourEntry }) else r
    neighbourCache := cds.neighbourCache.map fun _ n => if n.1 = p then (n.1, f n.2) else n
    held := cds.held.map fun n => if n.1 = p then (n.1, f n.2) else n }

/-! ### `IRouterList` -/

def router (cds : IPv6CDS) (addr : Ipv6Addr) : Option (Ptr × RouterEntry) :=
  cds.routers.find? (·.2.unicastAddr = addr)

def routerAt (cds : IPv6CDS) (p : Ptr) : Option RouterEntry :=
  (cds.routers.find? (·.1 = p)).map (·.2)

/-- Write through a `RouterEntry*`. -/
def modifyRouter (cds : IPv6CDS) (p : Ptr) (f : RouterEntry → RouterEntry) : IPv6CDS :=
  { cds with routers := cds.routers.map fun r => if r.1 = p then (r.1, f r.2) else r }

def pushRouterEntry (cds : IPv6CDS) (re : RouterEntry) (setDefault : Bool) : Ptr × IPv6CDS :=
  (cds.next,
    { cds with
      routers := if setDefault then (cds.next, re) :: cds.routers else cds.routers ++ [(cds.next, re)]
      next := cds.next + 1 })

def removeRouterEntry (cds : IPv6CDS) (addr : Ipv6Addr) : IPv6CDS :=
  { cds with routers := cds.routers.eraseP (·.2.unicastAddr = addr) }

def defaultRouter (cds : IPv6CDS) : Option (Ptr × RouterEntry) := cds.routers.head?

/-! ### `IDestinationCache` -/

def findDestEntry (cds : IPv6CDS) (addr : Ipv6Addr) : Option DestinationEntry :=
  cds.destCache[IPv6Address.host addr]?

def neighbour (cds : IPv6CDS) (addr : Ipv6Addr) : Option Ptr :=
  (cds.findDestEntry addr).bind (·.neighbour)

def setDestEntry (cds : IPv6CDS) (addr : Ipv6Addr) (de : DestinationEntry) : IPv6CDS :=
  { cds with destCache := cds.destCache.insert (IPv6Address.host addr) de }

def removeDestEntry (cds : IPv6CDS) (addr : Ipv6Addr) : Bool × IPv6CDS :=
  match cds.findDestEntry addr with
  | some _ => (true, { cds with destCache := cds.destCache.erase (IPv6Address.host addr) })
  | none => (false, cds)

/-- The first element in iteration order whose key covers `addr`. -/
def lookupDestination (cds : IPv6CDS) (addr : Ipv6Addr) : Option Ptr :=
  match cds.findDestEntry addr with
  | some de => de.neighbour
  | none =>
      match cds.destCache.toList.find? (·.1.isNetwork addr) with
      | some (key, de) => if key.addr = .unspecified then none else de.neighbour
      | none => none

/-- The loop that erases while it walks the cache. -/
def removeDestEntryByNeighbour (cds : IPv6CDS) (addr : Ipv6Addr) : IPv6CDS :=
  { cds with
    destCache := cds.destCache.toList.foldl
      (fun cache it =>
        if (cds.lock it.2.neighbour).all (·.unicastAddr = addr) then cache.erase it.1 else cache)
      cds.destCache }

/-! ### `INeighbourCache` -/

/-- `INeighbourCache::removeNeighbourEntry`: `assert(neighbourCache.erase(addr) == 1)` -/
def eraseNeighbour (cds : IPv6CDS) (addr : Ipv6Addr) : Exec IPv6CDS := do
  Exec.assert (addr ∈ cds.neighbourCache)
  return { cds with neighbourCache := cds.neighbourCache.erase addr }

def findNeighbourAndRemoveEntry (cds : IPv6CDS) (addr : Ipv6Addr) : IPv6CDS :=
  { cds with neighbourCache := cds.neighbourCache.erase addr }

/-! ### `IPrefixList` -/

def getPrefixEntry (cds : IPv6CDS) (key : IPv6Address) : Option PrefixNode := cds.prefixList[key]?

def prefixAt (cds : IPv6CDS) (p : Ptr) : Option PrefixEntry :=
  (cds.prefixList.toList.find? (·.2.ptr = p)).map (·.2.entry)

/-- `setAdvValidLifetime` through a `PrefixEntry*` -/
def setAdvValidLifetime (cds : IPv6CDS) (p : Ptr) (lifetime : BitVec 32) : IPv6CDS :=
  { cds with
    prefixList := cds.prefixList.map fun _ node =>
      if node.ptr = p then { node with entry := { node.entry with advValidLifetime := lifetime } }
      else node }

/-- Assignment through `prefixList[key]`: a node that exists keeps its address. -/
def insertPrefixEntry (cds : IPv6CDS) (pe : PrefixEntry) (ifIndex : Nat) : Ptr × IPv6CDS :=
  match cds.getPrefixEntry pe.prefixAddr with
  | some node =>
      (node.ptr,
        { cds with prefixList := cds.prefixList.insert pe.prefixAddr ⟨node.ptr, pe, ifIndex⟩ })
  | none =>
      (cds.next,
        { cds with
          prefixList := cds.prefixList.insert pe.prefixAddr ⟨cds.next, pe, ifIndex⟩
          next := cds.next + 1 })

/-- `removePrefixEntry(pref)`: fails unless exactly one element is erased. -/
def removePrefixEntry (cds : IPv6CDS) (pref : PrefixEntry) : Exec IPv6CDS := do
  Exec.assert (pref.prefixAddr ∈ cds.prefixList)
  return { cds with prefixList := cds.prefixList.erase pref.prefixAddr }

def getPrefixesByIndex (cds : IPv6CDS) (ifIndex : Nat) : List Ptr :=
  (cds.prefixList.toList.filter (·.2.ifIndex = ifIndex)).map (·.2.ptr)

/-- The interface of the first prefix in iteration order that covers `dest`. -/
def lookupAddress (cds : IPv6CDS) (dest : Ipv6Addr) : Option Nat :=
  (cds.prefixList.toList.find? (·.1.isNetwork dest)).map (·.2.ifIndex)

/-! ### `IPv6CDS` -/

def removeNeighbourEntry (cds : IPv6CDS) (addr : Ipv6Addr) : Exec IPv6CDS :=
  match cds.removeDestEntry addr with
  | (true, cds) => cds.eraseNeighbour addr
  | (false, cds) => .ok cds

/-- The pointer is the new router's. -/
def insertRouterEntry (cds : IPv6CDS) (re : RouterEntry) (setDefault : Bool) :
    Exec (Ptr × IPv6CDS) := do
  let (p, cds) := cds.pushRouterEntry re setDefault
  let cds ← cds.removeNeighbourEntry re.unicastAddr
  return (p, cds.setDestEntry re.unicastAddr { neighbour := some p })

/-- The entry replaces a neighbour of the same address; the path MTU stays. -/
def insertNeighbourEntry (cds : IPv6CDS) (entry : NeighbourEntry) : IPv6CDS :=
  let de := (cds.findDestEntry entry.unicastAddr).getD {}
  { cds.setDestEntry entry.unicastAddr { de with neighbour := some cds.next } with
    neighbourCache := cds.neighbourCache.insert entry.unicastAddr (cds.next, entry)
    next := cds.next + 1 }

def removeDestinationEntry (cds : IPv6CDS) (addr : Ipv6Addr) : IPv6CDS :=
  match cds.removeDestEntry addr with
  | (true, cds) => cds.findNeighbourAndRemoveEntry addr
  | (false, cds) => cds

/-- What the router list and the expiry of its entries depend on. -/
abbrev RouterKey := Ptr × Ipv6Addr × BitVec 32

def routerKeys (cds : IPv6CDS) : List RouterKey :=
  cds.routers.map fun r => (r.1, r.2.unicastAddr, r.2.invalidTime)

/-- The call changes neither a router's identity, address and lifetime nor any prefix. -/
structure SameLists (cds cds' : IPv6CDS) : Prop where
  routers : cds'.routerKeys = cds.routerKeys
  prefixes : cds'.prefixList = cds.prefixList
  next : cds'.next = cds.next

namespace SameLists

theorem refl (cds : IPv6CDS) : SameLists cds cds := ⟨rfl, rfl, rfl⟩

theorem trans {a b c : IPv6CDS} (first : SameLists a b) (second : SameLists b c) : SameLists a c :=
  ⟨second.routers.trans first.routers, second.prefixes.trans first.prefixes,
    second.next.trans first.next⟩

theorem setDestEntry (cds : IPv6CDS) (addr : Ipv6Addr) (de : DestinationEntry) :
    SameLists cds (cds.setDestEntry addr de) := ⟨rfl, rfl, rfl⟩

theorem modify (cds : IPv6CDS) (p : Ptr) (f : NeighbourEntry → NeighbourEntry)
    (address : ∀ ne, (f ne).unicastAddr = ne.unicastAddr) : SameLists cds (cds.modify p f) where
  routers := by
    simp only [routerKeys, IPv6CDS.modify, List.map_map]
    apply List.map_congr_left
    intro r _
    by_cases same : r.1 = p
    · simp [same, address]
    · simp [same]
  prefixes := rfl
  next := rfl

theorem modifyRouter (cds : IPv6CDS) (p : Ptr) (f : RouterEntry → RouterEntry)
    (address : ∀ re, (f re).unicastAddr = re.unicastAddr) (lifetime : ∀ re, (f re).invalidTime = re.invalidTime) :
    SameLists cds (cds.modifyRouter p f) where
  routers := by
    simp only [routerKeys, IPv6CDS.modifyRouter, List.map_map]
    apply List.map_congr_left
    intro r _
    by_cases same : r.1 = p
    · simp [same, address, lifetime]
    · simp [same]
  prefixes := rfl
  next := rfl

theorem removeNeighbourEntry {cds cds' : IPv6CDS} {addr : Ipv6Addr}
    (removed : cds.removeNeighbourEntry addr = .ok cds') : SameLists cds cds' ∧ cds'.routers = cds.routers := by
  unfold IPv6CDS.removeNeighbourEntry removeDestEntry at removed
  cases found : cds.findDestEntry addr with
  | none =>
      rw [found] at removed
      cases removed
      exact ⟨refl cds, rfl⟩
  | some de =>
      simp only [found, eraseNeighbour, bind_eq_ok] at removed
      obtain ⟨-, -, done⟩ := removed
      cases done
      exact ⟨⟨rfl, rfl, rfl⟩, rfl⟩

end SameLists

theorem insertRouterEntry_eq_ok {cds cds' : IPv6CDS} {re : RouterEntry} {p : Ptr}
    (inserted : cds.insertRouterEntry re false = .ok (p, cds')) : p = cds.next ∧
      cds'.routerKeys = cds.routerKeys ++ [(cds.next, re.unicastAddr, re.invalidTime)] ∧
      cds'.prefixList = cds.prefixList ∧ cds'.next = cds.next + 1 := by
  simp only [insertRouterEntry, pushRouterEntry, Bool.false_eq_true, ↓reduceIte,
    bind_eq_ok] at inserted
  obtain ⟨middle, removed, done⟩ := inserted
  cases done
  obtain ⟨same, -⟩ := SameLists.removeNeighbourEntry removed
  refine ⟨rfl, ?_, same.prefixes, same.next⟩
  change middle.routerKeys = _
  rw [same.routers]
  simp [routerKeys]

end IPv6CDS

/-! ### Longest prefixes -/

variable {V : Type}

/-- `key` is stored with `value`, covers `addr`, and no key that covers `addr` has a
longer prefix. -/
structure BestMatch (m : StdMap IPv6Address V IPv6Address.lt) (addr : Ipv6Addr)
    (key : IPv6Address) (value : V) : Prop where
  stored : m[key]? = some value
  covers : key.Covers addr
  longest : ∀ other, other ∈ m → other.Covers addr → other.prefixLength ≤ key.prefixLength

/-- The scan in map order stops at a longest match. -/
theorem find?_isNetwork_eq_some {m : StdMap IPv6Address V IPv6Address.lt} {addr : Ipv6Addr}
    {key : IPv6Address} {value : V} (found : m.toList.find? (·.1.isNetwork addr) = some (key, value)) :
    BestMatch m addr key value := by
  obtain ⟨matched, stored, first⟩ := StdMap.find?_toList_eq_some m found
  refine ⟨stored, (IPv6Address.isNetwork_iff key addr).mp matched, fun other inside covers => ?_⟩
  obtain ⟨otherValue, present⟩ := StdMap.mem_iff_exists.mp inside
  rcases first other otherValue present ((IPv6Address.isNetwork_iff other addr).mpr covers) with
    same | later
  · rw [same]
  · rcases (IPv6Address.lt_iff key other).mp later with shorter | ⟨equal, -⟩
    · exact Nat.le_of_lt shorter
    · exact Nat.le_of_eq equal

theorem find?_isNetwork_eq_none {m : StdMap IPv6Address V IPv6Address.lt} {addr : Ipv6Addr} :
    m.toList.find? (·.1.isNetwork addr) = none ↔ ∀ key ∈ m, ¬ key.Covers addr := by
  rw [StdMap.find?_toList_eq_none]
  constructor
  · intro none key inside covers
    obtain ⟨value, stored⟩ := StdMap.mem_iff_exists.mp inside
    have unmatched := none key value stored
    rw [(IPv6Address.isNetwork_iff key addr).mpr covers] at unmatched
    cases unmatched
  · intro none key value stored
    rw [Bool.eq_false_iff]
    intro matched
    exact none key (StdMap.mem_iff_exists.mpr ⟨value, stored⟩)
      ((IPv6Address.isNetwork_iff key addr).mp matched)

namespace IPv6CDS

theorem lookupDestination_of_not_mem {cds : IPv6CDS} {addr : Ipv6Addr}
    (absent : IPv6Address.host addr ∉ cds.destCache) :
    (∃ key de, BestMatch cds.destCache addr key de ∧
        cds.lookupDestination addr = if key.addr = .unspecified then none else de.neighbour) ∨
      (∀ key ∈ cds.destCache, ¬ key.Covers addr) ∧ cds.lookupDestination addr = none := by
  have missing := Std.TreeMap.getElem?_eq_none absent
  unfold lookupDestination findDestEntry
  rw [missing]
  cases found : cds.destCache.toList.find? (·.1.isNetwork addr) with
  | none => exact Or.inr ⟨find?_isNetwork_eq_none.mp found, rfl⟩
  | some entry => exact Or.inl ⟨entry.1, entry.2, find?_isNetwork_eq_some found, rfl⟩

/-- `lookupAddress` gives the interface of a longest match and fails exactly when
no prefix covers the address. -/
theorem lookupAddress_longest (cds : IPv6CDS) (dest : Ipv6Addr) :
    (∀ ifIndex, cds.lookupAddress dest = some ifIndex →
        ∃ key node, BestMatch cds.prefixList dest key node ∧ node.ifIndex = ifIndex) ∧
      (cds.lookupAddress dest = none ↔ ∀ key ∈ cds.prefixList, ¬ key.Covers dest) := by
  unfold lookupAddress
  refine ⟨fun ifIndex looked => ?_, ?_⟩
  · obtain ⟨entry, found, same⟩ := Option.map_eq_some_iff.mp looked
    exact ⟨entry.1, entry.2, find?_isNetwork_eq_some found, same⟩
  · rw [Option.map_eq_none_iff, find?_isNetwork_eq_none]

/-- The lookups follow the longest match, for every cache, prefix list and address.
A longest match at the unspecified address stands for the default route and yields
no next hop. -/
theorem lookups_follow_longest_match (cds : IPv6CDS) (addr : Ipv6Addr) :
    (∀ de, cds.destCache[IPv6Address.host addr]? = some de →
        cds.lookupDestination addr = de.neighbour) ∧
      (IPv6Address.host addr ∉ cds.destCache →
        (∃ key de, BestMatch cds.destCache addr key de ∧
            cds.lookupDestination addr =
              if key.addr = .unspecified then none else de.neighbour) ∨
          (∀ key ∈ cds.destCache, ¬ key.Covers addr) ∧ cds.lookupDestination addr = none) ∧
      (∀ ifIndex, cds.lookupAddress addr = some ifIndex →
        ∃ key node, BestMatch cds.prefixList addr key node ∧ node.ifIndex = ifIndex) ∧
      (cds.lookupAddress addr = none ↔ ∀ key ∈ cds.prefixList, ¬ key.Covers addr) := by
  refine ⟨fun de found => ?_, lookupDestination_of_not_mem, lookupAddress_longest cds addr⟩
  unfold lookupDestination findDestEntry
  rw [found]

/-- `::/64` is the only key that covers `::1`, yet its live neighbour is not returned. -/
theorem zero_prefix_lookup_is_null :
    let cds : IPv6CDS :=
      { IPv6CDS.empty with
        held := [(7, ⟨.loopback, "", 0, true, .reachable⟩)]
        destCache := (∅ : StdMap _ _ _).insert ⟨.unspecified, 64⟩ ⟨some 7, 0⟩ }
    BestMatch cds.destCache .loopback ⟨.unspecified, 64⟩ ⟨some 7, 0⟩ ∧
      (cds.lock (some 7)).isSome = true ∧ IPv6Address.host .loopback ∉ cds.destCache ∧
      cds.lookupDestination .loopback = none := by
  refine ⟨⟨by decide, ?_, ?_⟩, by decide, by decide, by decide⟩
  · exact (IPv6Address.isNetwork_iff _ _).mp (by decide)
  · intro other inside _
    rcases StdMap.mem_insert.mp inside with same | absent
    · rw [← same]
    · exact absurd absent Std.TreeMap.not_mem_emptyc

end IPv6CDS

end IPv6Suite
