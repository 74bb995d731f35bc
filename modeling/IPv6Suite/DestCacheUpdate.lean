import IPv6Suite.MIPv6NDStateHost

namespace IPv6Suite

open Lib

abbrev DestinationCache := StdMap IPv6Address DestinationEntry IPv6Address.lt

structure UpdateDestEntry where
  key : Ipv6Addr
  ngbr : Option Ptr
  count : Nat

namespace UpdateDestEntry

/-- `operator()`, which counts and points a destination to the new neighbour if it leads to `key` -/
def call (update : UpdateDestEntry) (cds : IPv6CDS) (de : DestinationEntry) : UpdateDestEntry × DestinationEntry :=
  if (cds.lock de.neighbour).any (·.unicastAddr = update.key) then
    ({ update with count := update.count + 1 }, { de with neighbour := update.ngbr })
  else (update, de)

/-- `for_each(destCache.begin(), destCache.end(), update)`, with the function object it returns -/
def forEach (update : UpdateDestEntry) (cds : IPv6CDS) (cache : DestinationCache) :
    UpdateDestEntry × DestinationCache :=
  cache.toList.foldl
    (fun s val =>
      let (update, de) := s.1.call cds val.2
      (update, s.2.insert val.1 de))
    (update, cache)

end UpdateDestEntry

namespace IPv6CDS

/-- `updateDestEntryByNeighbour` with what it returns: `for_each` takes the function object by value, and what it
returns is not used. -/
def updateDestEntries (cds : IPv6CDS) (addr ngbr : Ipv6Addr) : Exec (Nat × IPv6CDS) := do
  Exec.assert (addr ≠ ngbr)
  let ne := cds.neighbour ngbr
  Exec.assert ((cds.lock ne).isSome = true)
  let update : UpdateDestEntry := ⟨addr, ne, 0⟩
  let (_, destCache) := update.forEach cds cds.destCache
  return (update.count, { cds with destCache })

/-- The entry leads to a live neighbour with this address. -/
def leadsTo (cds : IPv6CDS) (addr : Ipv6Addr) (de : DestinationEntry) : Bool :=
  (cds.lock de.neighbour).any (·.unicastAddr = addr)

def redirected (cds : IPv6CDS) (addr ngbr : Ipv6Addr) (de : DestinationEntry) : DestinationEntry :=
  if cds.leadsTo addr de then { de with neighbour := cds.neighbour ngbr } else de

/-- The destinations that lead to a live neighbour with this address -/
def numberLeading (cds : IPv6CDS) (addr : Ipv6Addr) : Nat :=
  cds.destCache.toList.countP fun val => cds.leadsTo addr val.2

end IPv6CDS

namespace UpdateDestEntry

variable {cds : IPv6CDS} {update : UpdateDestEntry}

theorem call_fields (de : DestinationEntry) :
    (update.call cds de).1.key = update.key ∧ (update.call cds de).1.ngbr = update.ngbr := by
  unfold call
  split
  · exact ⟨rfl, rfl⟩
  · exact ⟨rfl, rfl⟩

/-- What the function object does to the values does not depend on its count. -/
theorem call_value {addr ngbr : Ipv6Addr} (key : update.key = addr) (neighbour : update.ngbr = cds.neighbour ngbr)
    (de : DestinationEntry) : (update.call cds de).2 = cds.redirected addr ngbr de := by
  unfold call IPv6CDS.redirected IPv6CDS.leadsTo
  rw [key, neighbour]
  split
  · rfl
  · rfl

theorem call_count {addr : Ipv6Addr} (key : update.key = addr) (de : DestinationEntry) :
    (update.call cds de).1.count = update.count + if cds.leadsTo addr de then 1 else 0 := by
  unfold call IPv6CDS.leadsTo
  rw [key]
  split
  · rfl
  · rfl

/-- The object that `for_each` returns has counted the entries it changed, and each entry has been redirected. By
induction on the entries that are left. -/
theorem foldl_spec {addr ngbr : Ipv6Addr} (entries : List (IPv6Address × DestinationEntry)) :
    ∀ (update : UpdateDestEntry) (cache : DestinationCache), update.key = addr → update.ngbr = cds.neighbour ngbr →
      (entries.foldl (fun s val => ((s.1.call cds val.2).1, s.2.insert val.1 (s.1.call cds val.2).2))
          (update, cache)).1.count = update.count + entries.countP (fun val => cds.leadsTo addr val.2) ∧
        (entries.foldl (fun s val => ((s.1.call cds val.2).1, s.2.insert val.1 (s.1.call cds val.2).2))
          (update, cache)).2 = entries.foldl (fun m e => m.insert e.1 (cds.redirected addr ngbr e.2)) cache := by
  induction entries with
  | nil =>
      intro update cache _ _
      exact ⟨rfl, rfl⟩
  | cons val rest ih =>
      intro update cache key neighbour
      have fields : (update.call cds val.2).1.key = update.key ∧ (update.call cds val.2).1.ngbr = update.ngbr :=
        call_fields val.2
      have on := ih (update.call cds val.2).1 (cache.insert val.1 (update.call cds val.2).2)
        (fields.1.trans key) (fields.2.trans neighbour)
      rw [List.foldl_cons, List.foldl_cons, List.countP_cons]
      refine ⟨?_, ?_⟩
      · rw [on.1, call_count key]
        omega
      · rw [on.2, call_value key neighbour]

end UpdateDestEntry

namespace IPv6CDS

variable {cds : IPv6CDS} {addr ngbr : Ipv6Addr}

/-- What the loop leaves, and what the function object it returns has counted -/
theorem forEach_spec (cds : IPv6CDS) (addr ngbr : Ipv6Addr) :
    (UpdateDestEntry.forEach ⟨addr, cds.neighbour ngbr, 0⟩ cds cds.destCache).1.count = cds.numberLeading addr ∧
      ∀ key : IPv6Address, (UpdateDestEntry.forEach ⟨addr, cds.neighbour ngbr, 0⟩ cds cds.destCache).2[key]? =
        cds.destCache[key]?.map (cds.redirected addr ngbr) := by
  obtain ⟨counted, changed⟩ := @UpdateDestEntry.foldl_spec cds addr ngbr cds.destCache.toList
    ⟨addr, cds.neighbour ngbr, 0⟩ cds.destCache rfl rfl
  constructor
  · rw [UpdateDestEntry.forEach, counted]
    exact Nat.zero_add _
  · intro key
    rw [UpdateDestEntry.forEach, changed]
    exact StdMap.getElem?_foldl_toList cds.destCache _ key

theorem numberLeading_eq_zero : cds.numberLeading addr = 0 ↔
      ∀ (key : IPv6Address) (de : DestinationEntry), cds.destCache[key]? = some de → cds.leadsTo addr de = false := by
  unfold numberLeading
  rw [List.countP_eq_zero]
  simp only [Prod.forall, Std.TreeMap.mem_toList_iff_getElem?_eq_some, Bool.not_eq_true]

/-- The cache is the one of the model without the count. -/
theorem updateDestEntries_cache {count : Nat} {cds' : IPv6CDS}
    (updates : cds.updateDestEntries addr ngbr = .ok (count, cds')) :
    ∃ cds'', cds.updateDestEntryByNeighbour addr ngbr = .ok cds'' ∧
      ∀ key : IPv6Address, cds'.destCache[key]? = cds''.destCache[key]? := by
  obtain ⟨_, apart, updates⟩ := bind_eq_ok.mp updates
  obtain ⟨_, live, updates⟩ := bind_eq_ok.mp updates
  cases updates
  refine ⟨_, bind_eq_ok.mpr ⟨_, apart, bind_eq_ok.mpr ⟨_, live, rfl⟩⟩, fun key => ?_⟩
  rw [Std.TreeMap.getElem?_map]
  exact (forEach_spec cds addr ngbr).2 key

/-- All entries that lead to the one neighbour are made to lead to the other, no other entry changes, and the number
returned is right only if there was nothing to change. -/
theorem updateDestEntries_count_iff (cds : IPv6CDS) {addr ngbr : Ipv6Addr} (apart : addr ≠ ngbr)
    (live : (cds.lock (cds.neighbour ngbr)).isSome = true) :
    ∃ count destCache, cds.updateDestEntries addr ngbr = .ok (count, { cds with destCache }) ∧
      (∀ key : IPv6Address, destCache[key]? = cds.destCache[key]?.map (cds.redirected addr ngbr)) ∧
      (count = cds.numberLeading addr ↔
        ∀ (key : IPv6Address) (de : DestinationEntry), cds.destCache[key]? = some de → cds.leadsTo addr de = false) := by
  refine ⟨0, _, ?_, (forEach_spec cds addr ngbr).2, ?_⟩
  · unfold updateDestEntries
    rw [assert_pos apart, ok_bind]
    dsimp only
    rw [assert_pos live]
    rfl
  · rw [← numberLeading_eq_zero, eq_comm]

def hop (low : BitVec 32) : NeighbourEntry := ⟨⟨0xFE800000, 0, 0, low⟩, "", 0, true, .reachable⟩

/-- Two live neighbours, and a destination that leads to the first of them -/
def twoHops : IPv6CDS :=
  { empty with
    held := [(0, hop 1), (1, hop 2)]
    destCache := ((∅ : DestinationCache).insert (IPv6Address.host ⟨0x20010db8, 0, 0, 9⟩) ⟨some 0, 0⟩).insert
      (IPv6Address.host ⟨0xFE800000, 0, 0, 2⟩) ⟨some 1, 0⟩
    next := 2 }

theorem updateDestEntries_count_iff_twoHops :
    ∃ count destCache, twoHops.updateDestEntries (hop 1).unicastAddr (hop 2).unicastAddr =
        .ok (count, { twoHops with destCache }) ∧
      (∀ key : IPv6Address, destCache[key]? =
        twoHops.destCache[key]?.map (twoHops.redirected (hop 1).unicastAddr (hop 2).unicastAddr)) ∧
      (count = twoHops.numberLeading (hop 1).unicastAddr ↔
        ∀ (key : IPv6Address) (de : DestinationEntry), twoHops.destCache[key]? = some de →
          twoHops.leadsTo (hop 1).unicastAddr de = false) :=
  updateDestEntries_count_iff twoHops (by decide) (by decide)

/-- One destination is changed and the number returned is 0. -/
theorem twoHops_not_counted :
    twoHops.numberLeading (hop 1).unicastAddr = 1 ∧
      (twoHops.updateDestEntries (hop 1).unicastAddr (hop 2).unicastAddr).map (fun r =>
        (r.1, r.2.destCache[IPv6Address.host ⟨0x20010db8, 0, 0, 9⟩]?.bind (·.neighbour))) = .ok (0, some 1) := by
  decide

end IPv6CDS

end IPv6Suite
