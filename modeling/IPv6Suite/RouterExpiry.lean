import IPv6Suite.NDStateHost

namespace IPv6Suite

open Lib
open IPv6CDS (RouterKey SameLists)

def expiryIn (keys : List RouterKey) (p : Ptr) : SimTime :=
  ((keys.find? (·.1 = p)).map fun k => (k.2.2.toNat : SimTime)).getD 0

/-- Routers are told apart by pointer and by address, and every pointer of the expiry
list belongs to one. -/
structure Listed (keys : List RouterKey) (next : Ptr) (rel : ExpiryEntryList Ptr) : Prop where
  pointers : (keys.map (·.1)).Nodup
  addresses : (keys.map (·.2.1)).Nodup
  fresh : ∀ k ∈ keys, k.1 < next
  owned : ∀ p ∈ rel.entries, ∃ k ∈ keys, k.1 = p
  nodup : rel.entries.Nodup
  relative : rel.relative = true

/-- The expiry list is moreover a heap for the routers' present lifetimes. -/
structure RelOwned (keys : List RouterKey) (next : Ptr) (rel : ExpiryEntryList Ptr) : Prop where
  listed : Listed keys next rel
  isHeap : IsHeap (expiryIn keys) rel.entries

variable {keys keys' : List RouterKey} {next : Ptr} {rel : ExpiryEntryList Ptr}

theorem expiryIn_of_mem (pointers : (keys.map (·.1)).Nodup) {k : RouterKey} (inside : k ∈ keys) :
    expiryIn keys k.1 = k.2.2.toNat := by
  cases found : keys.find? (·.1 = k.1) with
  | none =>
      have apart := List.find?_eq_none.mp found k inside
      simp at apart
  | some other =>
      have same := List.find?_some found
      rw [decide_eq_true_eq] at same
      have equal := List.inj_on_of_nodup_map pointers (List.mem_of_find?_eq_some found) inside same
      simp [expiryIn, found, equal]

/-- Only the routers in the list count for its order. -/
theorem isHeap_of_keys (pointers : (keys.map (·.1)).Nodup) (pointers' : (keys'.map (·.1)).Nodup)
    {entries : List Ptr} (kept : ∀ p ∈ entries, ∃ k ∈ keys, k ∈ keys' ∧ k.1 = p)
    (isHeap : IsHeap (expiryIn keys) entries) : IsHeap (expiryIn keys') entries := by
  refine isHeap.congr fun p inside => ?_
  obtain ⟨k, before, after, rfl⟩ := kept p inside
  rw [expiryIn_of_mem pointers before, expiryIn_of_mem pointers' after]

namespace RelOwned

/-- A router under a fresh pointer and a new address. -/
theorem insert (inv : RelOwned keys next rel) {addr : Ipv6Addr} (lifetime : BitVec 32)
    (absent : addr ∉ keys.map (·.2.1)) : RelOwned (keys ++ [(next, addr, lifetime)]) (next + 1) rel := by
  obtain ⟨⟨pointers, addresses, fresh, owned, nodup, relative⟩, isHeap⟩ := inv
  have pointers' : ((keys ++ [(next, addr, lifetime)]).map (·.1)).Nodup := by
    rw [List.map_append, List.nodup_append]
    refine ⟨pointers, List.nodup_singleton _, ?_⟩
    intro p inside q last
    obtain ⟨k, member, rfl⟩ := List.mem_map.mp inside
    rw [List.map_cons, List.map_nil, List.mem_singleton] at last
    rw [last]
    exact Nat.ne_of_lt (fresh k member)
  refine ⟨⟨pointers', ?_, ?_, ?_, nodup, relative⟩, ?_⟩
  · rw [List.map_append, List.nodup_append]
    refine ⟨addresses, List.nodup_singleton _, ?_⟩
    intro a inside b last same
    rw [List.map_cons, List.map_nil, List.mem_singleton] at last
    rw [same, last] at inside
    exact absent inside
  · intro k member
    rcases List.mem_append.mp member with old | new
    · exact Nat.lt_succ_of_lt (fresh k old)
    · rw [List.mem_singleton.mp new]
      exact Nat.lt_succ_self next
  · intro p inside
    obtain ⟨k, member, same⟩ := owned p inside
    exact ⟨k, List.mem_append_left _ member, same⟩
  · refine isHeap_of_keys pointers pointers' (fun p inside => ?_) isHeap
    obtain ⟨k, member, same⟩ := owned p inside
    exact ⟨k, member, List.mem_append_left _ member, same⟩

/-- Removal of a router that the expiry list does not hold. -/
theorem eraseP (inv : RelOwned keys next rel) {k : RouterKey} (member : k ∈ keys) (unqueued : k.1 ∉ rel.entries) :
    RelOwned (keys.eraseP (·.2.1 = k.2.1)) next rel := by
  obtain ⟨⟨pointers, addresses, fresh, owned, nodup, relative⟩, isHeap⟩ := inv
  have sublist := List.eraseP_sublist (p := fun other : RouterKey => other.2.1 = k.2.1) (l := keys)
  have pointers' := pointers.sublist (sublist.map (·.1))
  have kept : ∀ p ∈ rel.entries,
      ∃ other ∈ keys, other ∈ keys.eraseP (·.2.1 = k.2.1) ∧ other.1 = p := by
    intro p inside
    obtain ⟨other, present, rfl⟩ := owned p inside
    refine ⟨other, present, (List.mem_eraseP_of_neg ?_).mpr present, rfl⟩
    rw [decide_eq_true_eq]
    intro same
    rw [List.inj_on_of_nodup_map addresses present member same] at inside
    exact unqueued inside
  refine ⟨⟨pointers', addresses.sublist (sublist.map (·.2.1)), fun other present =>
    fresh other (sublist.mem present), fun p inside => ?_, nodup, relative⟩,
    isHeap_of_keys pointers pointers' kept isHeap⟩
  obtain ⟨other, -, present, same⟩ := kept p inside
  exact ⟨other, present, same⟩

end RelOwned

theorem Listed.addOrUpdate (heap : StdHeap SimTime) (now : SimTime) (inv : Listed keys next rel)
    {k : RouterKey} (member : k ∈ keys) : RelOwned keys next (rel.addOrUpdate heap (expiryIn keys) now k.1) := by
  have restarted :=
    ExpiryEntryList.addOrUpdate_restarted heap (expiryIn keys) now k.1 inv.relative
  refine ⟨⟨inv.pointers, inv.addresses, inv.fresh, fun p inside => ?_,
    ExpiryEntryList.nodup_addOrUpdate inv.nodup, restarted.relative⟩, restarted.isHeap⟩
  rcases ExpiryEntryList.mem_addOrUpdate.mp inside with rfl | old
  · exact ⟨k, member, rfl⟩
  · exact inv.owned p old

theorem Listed.setLifetime (inv : Listed keys next rel) (p : Ptr) (lifetime : BitVec 32) :
    Listed (keys.map fun k => if k.1 = p then (k.1, k.2.1, lifetime) else k) next rel := by
  have pointer : ∀ k : RouterKey, (if k.1 = p then (k.1, k.2.1, lifetime) else k).1 = k.1 := by
    intro k
    split <;> rfl
  have address : ∀ k : RouterKey, (if k.1 = p then (k.1, k.2.1, lifetime) else k).2.1 = k.2.1 := by
    intro k
    split <;> rfl
  refine ⟨?_, ?_, fun k member => ?_, fun q inside => ?_, inv.nodup, inv.relative⟩
  · simpa only [List.map_map, Function.comp_def, pointer] using inv.pointers
  · simpa only [List.map_map, Function.comp_def, address] using inv.addresses
  · obtain ⟨old, before, rfl⟩ := List.mem_map.mp member
    rw [pointer]
    exact inv.fresh old before
  · obtain ⟨k, member, rfl⟩ := inv.owned q inside
    exact ⟨_, List.mem_map_of_mem member, pointer k⟩

namespace RoutingTable6

variable {rt rt' : RoutingTable6} {heap : StdHeap SimTime} {now : SimTime}

/-- The invariant of the router expiry list. -/
def RelInv (rt : RoutingTable6) : Prop := RelOwned rt.cds.routerKeys rt.cds.next rt.rel

theorem routerExpiry_eq (rt : RoutingTable6) : rt.routerExpiry = expiryIn rt.cds.routerKeys := by
  funext p
  simp only [routerExpiry, expiryIn, IPv6CDS.routerAt, IPv6CDS.routerKeys, List.find?_map,
    Option.map_map]
  rfl

theorem relAddOrUpdate_eq_ok {p : Ptr} (done : rt.relAddOrUpdate heap now p = .ok rt') :
    rt' = { rt with rel := rt.rel.addOrUpdate heap (expiryIn rt.cds.routerKeys) now p } := by
  simp only [relAddOrUpdate, bind_eq_ok, routerExpiry_eq] at done
  obtain ⟨-, -, done⟩ := done
  cases done
  rfl

/-- A change that leaves the routers' keys and their expiry list alone and takes no
pointer back. -/
structure RelFrame (rt rt' : RoutingTable6) : Prop where
  keys : rt'.cds.routerKeys = rt.cds.routerKeys
  next : rt.cds.next ≤ rt'.cds.next
  rel : rt'.rel = rt.rel

theorem RelFrame.refl (rt : RoutingTable6) : RelFrame rt rt := ⟨rfl, Nat.le_refl _, rfl⟩

theorem RelFrame.trans {a b c : RoutingTable6} (first : RelFrame a b) (second : RelFrame b c) : RelFrame a c :=
  ⟨second.keys.trans first.keys, Nat.le_trans first.next second.next,
    second.rel.trans first.rel⟩

theorem RelFrame.of_sameLists {cds : IPv6CDS} (same : SameLists rt.cds cds) : RelFrame rt { rt with cds } :=
  ⟨same.routers, Nat.le_of_eq same.next.symm, rfl⟩

theorem RelInv.frame (inv : rt.RelInv) (frame : RelFrame rt rt') : rt'.RelInv := by
  obtain ⟨⟨pointers, addresses, fresh, owned, nodup, relative⟩, isHeap⟩ := inv
  unfold RelInv
  rw [frame.keys, frame.rel]
  exact ⟨⟨pointers, addresses, fun k member => Nat.lt_of_lt_of_le (fresh k member) frame.next,
    owned, nodup, relative⟩, isHeap⟩

theorem router_eq_none {addr : Ipv6Addr} (none : rt.cds.router addr = none) :
    addr ∉ rt.cds.routerKeys.map (·.2.1) := by
  intro inside
  simp only [IPv6CDS.routerKeys, List.map_map, List.mem_map, Function.comp_apply] at inside
  obtain ⟨r, member, same⟩ := inside
  have apart := List.find?_eq_none.mp none r member
  simp [same] at apart

theorem router_eq_some {addr : Ipv6Addr} {p : Ptr} {re : RouterEntry} (found : rt.cds.router addr = some (p, re)) :
    (p, addr, re.invalidTime) ∈ rt.cds.routerKeys := by
  have same := List.find?_some found
  rw [decide_eq_true_eq] at same
  exact List.mem_map.mpr ⟨(p, re), List.mem_of_find?_eq_some found, by rw [same]⟩

theorem removeRouterEntry_keys (cds : IPv6CDS) (addr : Ipv6Addr) :
    (cds.removeRouterEntry addr).routerKeys = cds.routerKeys.eraseP (·.2.1 = addr) := by
  simp only [IPv6CDS.routerKeys, IPv6CDS.removeRouterEntry, List.eraseP_map]
  rfl

theorem insertRouterEntry_relInv {re : RouterEntry} {p : Ptr} (inv : rt.RelInv)
    (absent : rt.cds.router re.unicastAddr = none)
    (done : rt.insertRouterEntry heap now re false = .ok (p, rt')) : rt'.RelInv := by
  simp only [insertRouterEntry, bind_eq_ok] at done
  obtain ⟨⟨q, cds⟩, inserted, done⟩ := done
  obtain ⟨rfl, keys, -, next⟩ := IPv6CDS.insertRouterEntry_eq_ok inserted
  have pushed := inv.insert re.invalidTime (router_eq_none absent)
  rw [← keys, ← next] at pushed
  split at done
  · obtain ⟨rt'', queued, done⟩ := bind_eq_ok.mp done
    cases done
    rw [relAddOrUpdate_eq_ok queued]
    have member : (rt.cds.next, re.unicastAddr, re.invalidTime) ∈ cds.routerKeys := by
      rw [keys]
      exact List.mem_append_right _ (List.mem_singleton_self _)
    exact pushed.listed.addOrUpdate heap now member
  · cases done
    exact pushed

theorem pelRemove_relFrame {p : Ptr} (done : rt.pelRemove heap now p = .ok rt') : RelFrame rt rt' := by
  unfold pelRemove at done
  split at done
  · obtain ⟨-, -, done⟩ := bind_eq_ok.mp done
    cases done
    exact ⟨rfl, Nat.le_refl _, rfl⟩
  · cases done
    exact RelFrame.refl rt

theorem removePrefixEntry_relFrame {p : Ptr}
    (done : rt.removePrefixEntry heap now p = .ok rt') : RelFrame rt rt' := by
  simp only [removePrefixEntry, IPv6CDS.removePrefixEntry, bind_eq_ok] at done
  obtain ⟨pe, -, middle, unqueued, cds, ⟨-, -, erased⟩, done⟩ := done
  cases erased
  cases done
  have removed : RelFrame rt middle := by
    split at unqueued
    · exact pelRemove_relFrame unqueued
    · cases unqueued
      exact RelFrame.refl rt
  exact ⟨removed.keys, removed.next, removed.rel⟩

theorem pelAddOrUpdate_relFrame {p : Ptr} (done : rt.pelAddOrUpdate heap now p = .ok rt') : RelFrame rt rt' := by
  obtain ⟨-, -, done⟩ := bind_eq_ok.mp done
  cases done
  exact ⟨rfl, Nat.le_refl _, rfl⟩

theorem insertPrefixEntry_relFrame {pe : PrefixEntry} {ifIndex : Nat}
    (done : rt.insertPrefixEntry heap now pe ifIndex = .ok rt') : RelFrame rt rt' := by
  have inserted : RelFrame rt { rt with cds := (rt.cds.insertPrefixEntry pe ifIndex).2 } := by
    unfold IPv6CDS.insertPrefixEntry
    split
    · exact ⟨rfl, Nat.le_refl _, rfl⟩
    · exact ⟨rfl, Nat.le_succ _, rfl⟩
  unfold insertPrefixEntry at done
  dsimp only at done
  split at done
  · exact inserted.trans (pelAddOrUpdate_relFrame done)
  · cases done
    exact inserted

theorem prefixTimer_relFrame (done : rt.prefixTimer heap now = .ok rt') : RelFrame rt rt' := by
  unfold prefixTimer at done
  dsimp only at done
  split at done
  · cases done
    exact ⟨rfl, Nat.le_refl _, rfl⟩
  · simp only [bind_eq_ok, prefixTimeout, IPv6CDS.removePrefixEntry] at done
    obtain ⟨-, -, middle, ⟨pe, -, cds, ⟨-, -, erased⟩, timeout⟩, -, -, done⟩ := done
    cases erased
    cases timeout
    cases done
    exact ⟨rfl, Nat.le_refl _, rfl⟩

end RoutingTable6

namespace NDStateHost

open RoutingTable6

variable {rt rt' : RoutingTable6} {heap : StdHeap SimTime} {now : SimTime}

theorem processPrefix_relFrame {ifIndex : Nat} {prefixes : List Ptr} {opt : OptPrefix}
    (done : processPrefix heap now ifIndex prefixes rt opt = .ok rt') : RelFrame rt rt' := by
  unfold processPrefix at done
  split at done
  · obtain ⟨found, -, done⟩ := bind_eq_ok.mp done
    cases found with
    | some p =>
        dsimp only at done
        split at done
        · split at done
          · have updated := pelAddOrUpdate_relFrame done
            exact ⟨updated.keys, updated.next, updated.rel⟩
          · cases done
            exact ⟨rfl, Nat.le_refl _, rfl⟩
        · obtain ⟨-, -, done⟩ := bind_eq_ok.mp done
          exact removePrefixEntry_relFrame done
    | none =>
        dsimp only at done
        split at done
        · exact insertPrefixEntry_relFrame done
        · cases done
          exact RelFrame.refl rt
  · cases done
    exact RelFrame.refl rt

theorem processPrefixes_relFrame {ifIndex : Nat} {prefixes : List Ptr} {opts : List OptPrefix}
    (done : processPrefixes heap now ifIndex prefixes rt opts = .ok rt') : RelFrame rt rt' := by
  induction opts generalizing rt with
  | nil =>
      cases done
      exact RelFrame.refl _
  | cons opt rest ih =>
      obtain ⟨middle, first, done⟩ := bind_eq_ok.mp done
      exact (processPrefix_relFrame first).trans (ih done)

theorem touchDestEntry_same (cds : IPv6CDS) (addr : Ipv6Addr) : SameLists cds (touchDestEntry cds addr) := by
  unfold touchDestEntry
  split
  · exact SameLists.refl cds
  · exact SameLists.setDestEntry cds addr {}

variable {addr : Ipv6Addr} {cds cds' : IPv6CDS}

theorem reinstateNeighbour_same {mobility : Bool}
    (done : reinstateNeighbour mobility cds addr = .ok cds') : SameLists cds cds' := by
  unfold reinstateNeighbour at done
  dsimp only at done
  split at done
  · obtain ⟨-, -, done⟩ := bind_eq_ok.mp done
    cases done
    exact SameLists.setDestEntry cds addr _
  · cases done
    exact SameLists.refl cds

theorem checkIsRouter_same (done : checkIsRouter cds addr = .ok cds') : SameLists cds cds' := by
  simp only [checkIsRouter, bind_eq_ok] at done
  obtain ⟨p, -, ngbr, -, done⟩ := done
  cases done
  split
  · exact SameLists.refl cds
  · exact SameLists.modify cds p _ fun _ => rfl

variable {ra : RtrAd}

theorem processLinkLayer_same (done : processLinkLayer rt ra = .ok rt') :
    ∃ cds, rt' = { rt with cds } ∧ SameLists rt.cds cds := by
  have touched := touchDestEntry_same rt.cds ra.srcAddress
  unfold processLinkLayer at done
  dsimp only at done
  split at done
  · cases done
    exact ⟨_, rfl, touched⟩
  · simp only [bind_eq_ok] at done
    obtain ⟨first, reinstated, second, checked, done⟩ := done
    cases done
    exact ⟨second, rfl, (touched.trans (reinstateNeighbour_same reinstated)).trans
      (checkIsRouter_same checked)⟩

theorem restoreDestEntry_same (done : restoreDestEntry cds addr = .ok cds') : SameLists cds cds' := by
  simp only [restoreDestEntry, bind_eq_ok] at done
  obtain ⟨ngbr, -, done⟩ := done
  cases done
  split <;> split
  · exact (SameLists.setDestEntry _ _ _).trans (SameLists.setDestEntry _ _ _)
  · exact SameLists.setDestEntry _ _ _
  · exact SameLists.setDestEntry _ _ _
  · exact SameLists.refl cds

theorem refreshRouter_relInv {p : Ptr} {lifetime : BitVec 32}
    (inv : rt.RelInv) (member : (p, addr, lifetime) ∈ rt.cds.routerKeys)
    (done : refreshRouter heap now rt ra p = .ok rt') : rt'.RelInv := by
  simp only [refreshRouter, bind_eq_ok] at done
  obtain ⟨middle, queued, cds, restored, done⟩ := done
  cases done
  have keys : (rt.cds.modifyRouter p
      ({ · with invalidTime := ra.routerLifetime.setWidth 32 })).routerKeys =
        rt.cds.routerKeys.map fun k =>
          if k.1 = p then (k.1, k.2.1, ra.routerLifetime.setWidth 32) else k := by
    simp only [IPv6CDS.routerKeys, IPv6CDS.modifyRouter, List.map_map]
    apply List.map_congr_left
    intro r _
    by_cases same : r.1 = p
    · simp [same]
    · simp [same]
  have listed := inv.listed.setLifetime p (ra.routerLifetime.setWidth 32)
  rw [← keys] at listed
  have present : (p, addr, ra.routerLifetime.setWidth 32) ∈ (rt.cds.modifyRouter p
      ({ · with invalidTime := ra.routerLifetime.setWidth 32 })).routerKeys := by
    rw [keys]
    refine List.mem_map.mpr ⟨_, member, ?_⟩
    simp
  have requeued : middle.RelInv := by
    rw [relAddOrUpdate_eq_ok queued]
    exact listed.addOrUpdate heap now present
  refine requeued.frame (RelFrame.of_sameLists ?_)
  have refreshed : SameLists middle.cds
      (middle.cds.modifyRouter p (refreshLinkLayer middle.mipv6Support ra.srcLLAddr)) := by
    refine SameLists.modifyRouter _ _ _ (fun re => ?_) fun re => ?_
    · unfold refreshLinkLayer
      split
      · rfl
      · split_ifs <;> rfl
    · unfold refreshLinkLayer
      split
      · rfl
      · split_ifs <;> rfl
  have stamped : SameLists cds (cds.modifyRouter p ({ · with lastRAReceived := now })) :=
    SameLists.modifyRouter _ _ _ (fun _ => rfl) fun _ => rfl
  split at restored
  · exact (refreshed.trans (restoreDestEntry_same restored)).trans stamped
  · cases restored
    exact refreshed.trans stamped

/-- A lifetime of 0 comes only from a router that the expiry list does not hold. -/
def WithdrawsUnqueued (rt : RoutingTable6) : DiscoveryEvent → Prop
  | .rtrAd _ ra => ra.routerLifetime = 0 →
      ∀ p re, rt.cds.router ra.srcAddress = some (p, re) → p ∉ rt.rel.entries
  | .routerTimer _ => True
  | .prefixTimer _ => True

theorem withdrawsUnqueued_of_ne (alive : ra.routerLifetime ≠ 0) :
    WithdrawsUnqueued rt (.rtrAd now ra) := fun zero => absurd zero alive

theorem processRouter_relInv {continues : Bool} (inv : rt.RelInv) (meets : WithdrawsUnqueued rt (.rtrAd now ra))
    (done : processRouter heap now rt ra = .ok (rt', continues)) : rt'.RelInv := by
  unfold processRouter at done
  cases found : rt.cds.router ra.srcAddress with
  | none =>
      simp only [found] at done
      split at done
      · obtain ⟨⟨p, middle⟩, inserted, done⟩ := bind_eq_ok.mp done
        cases done
        refine (insertRouterEntry_relInv inv found inserted).frame (RelFrame.of_sameLists ?_)
        exact SameLists.modifyRouter _ _ _ (fun _ => rfl) fun _ => rfl
      · cases done
        exact inv
  | some router =>
      obtain ⟨p, re⟩ := router
      have member := router_eq_some found
      simp only [found] at done
      split at done
      · obtain ⟨middle, refreshed, done⟩ := bind_eq_ok.mp done
        cases done
        exact refreshRouter_relInv inv member refreshed
      · rename_i withdrawn
        cases done
        have unqueued := meets (not_not.mp withdrawn) p re found
        unfold RelInv
        rw [removeRouterEntry_keys]
        exact inv.eraseP member unqueued

theorem routerTimer_relInv (inv : rt.RelInv) (done : rt.routerTimer heap now = .ok rt') : rt'.RelInv := by
  unfold routerTimer at done
  rw [routerExpiry_eq] at done
  cases split : rt.rel.entries with
  | nil =>
      obtain ⟨none, popped⟩ :=
        ExpiryEntryList.popExpired_nil heap (expiryIn rt.cds.routerKeys) now split
      rw [none, popped] at done
      cases done
      obtain ⟨⟨pointers, addresses, fresh, owned, nodup, relative⟩, isHeap⟩ := inv
      exact ⟨⟨pointers, addresses, fresh, owned, nodup, relative⟩, isHeap⟩
  | cons front rest =>
      obtain ⟨handed, perm, restarted⟩ := ExpiryEntryList.popExpired_cons heap now split
        inv.isHeap inv.listed.relative
      rw [handed] at done
      simp only [bind_eq_ok, routerTimeout, deref_eq_ok] at done
      obtain ⟨-, -, middle, ⟨re, found, timeout⟩, -, -, done⟩ := done
      cases timeout
      cases done
      obtain ⟨r, present, rfl⟩ := Option.map_eq_some_iff.mp found
      have pointer := List.find?_some present
      rw [decide_eq_true_eq] at pointer
      have member : (r.1, r.2.unicastAddr, r.2.invalidTime) ∈ rt.cds.routerKeys :=
        List.mem_map_of_mem (List.mem_of_find?_eq_some present)
      obtain ⟨⟨pointers, addresses, fresh, owned, nodup, -⟩, -⟩ := inv
      have apart := List.nodup_cons.mp (split ▸ nodup)
      have popped : RelOwned rt.cds.routerKeys rt.cds.next
          (rt.rel.popExpired heap (expiryIn rt.cds.routerKeys) now) := by
        refine ⟨⟨pointers, addresses, fresh, fun p inside => ?_, perm.nodup_iff.mpr apart.2,
          restarted.relative⟩, restarted.isHeap⟩
        exact owned p (split ▸ List.mem_cons_of_mem _ (perm.mem_iff.mp inside))
      have unqueued : r.1 ∉ (rt.rel.popExpired heap (expiryIn rt.cds.routerKeys) now).entries := by
        rw [perm.mem_iff, pointer]
        exact apart.1
      unfold RelInv
      rw [removeRouterEntry_keys]
      exact popped.eraseP member unqueued

theorem step_relInv {e : DiscoveryEvent} (inv : rt.RelInv) (meets : WithdrawsUnqueued rt e)
    (done : e.step heap rt = .ok rt') : rt'.RelInv := by
  cases e with
  | rtrAd now ra =>
      simp only [DiscoveryEvent.step, processRtrAd, bind_eq_ok] at done
      obtain ⟨-, -, ⟨middle, continues⟩, routed, done⟩ := done
      have inv' := processRouter_relInv inv meets routed
      dsimp only at done
      split at done
      · obtain ⟨linked, checked, done⟩ := bind_eq_ok.mp done
        obtain ⟨cds, rfl, same⟩ := processLinkLayer_same checked
        exact (inv'.frame (RelFrame.of_sameLists same)).frame (processPrefixes_relFrame done)
      · cases done
        exact inv'
  | routerTimer now => exact routerTimer_relInv inv done
  | prefixTimer now => exact inv.frame (prefixTimer_relFrame done)

/-- Routers differ in pointer and in address. -/
structure RoutersDistinct (cds : IPv6CDS) : Prop where
  pointers : (cds.routerKeys.map (·.1)).Nodup
  addresses : (cds.routerKeys.map (·.2.1)).Nodup
  fresh : ∀ k ∈ cds.routerKeys, k.1 < cds.next

theorem relInv_of_unqueued (distinct : RoutersDistinct rt.cds)
    (unqueued : rt.rel = ExpiryEntryList.create true) : rt.RelInv := by
  unfold RelInv
  rw [unqueued]
  exact ⟨⟨distinct.pointers, distinct.addresses, distinct.fresh,
    fun p inside => absurd inside List.not_mem_nil, List.nodup_nil, rfl⟩,
    fun c inside => absurd inside (Nat.not_lt_zero c)⟩

theorem withdrawal_dangles (inv : rt.RelInv) {e : DiscoveryEvent}
    (done : e.step heap rt = .ok rt') (queued : ¬ WithdrawsUnqueued rt e) :
    ∃ p ∈ rt'.rel.entries, ∀ re, (p, re) ∉ rt'.cds.routers := by
  cases e with
  | routerTimer now => exact absurd trivial queued
  | prefixTimer now => exact absurd trivial queued
  | rtrAd now ra =>
      simp only [WithdrawsUnqueued, not_forall, not_not] at queued
      obtain ⟨withdrawn, p, re, found, inside⟩ := queued
      simp only [DiscoveryEvent.step, processRtrAd, processRouter, found, withdrawn, ne_eq,
        not_true_eq_false, ↓reduceIte, pure_eq_ok, ok_bind, Bool.false_eq_true,
        bind_eq_ok] at done
      obtain ⟨-, -, done⟩ := done
      cases done
      refine ⟨p, inside, fun other member => ?_⟩
      obtain ⟨matched, front, back, split, before⟩ := List.find?_eq_some_iff_append.mp found
      have unmatched : ∀ r ∈ front, ¬ decide (r.2.unicastAddr = ra.srcAddress) = true :=
        fun r early => by simpa using before r early
      have erased : rt.cds.routers.eraseP (·.2.unicastAddr = ra.srcAddress) = front ++ back := by
        rw [split, List.eraseP_append_right _ unmatched]
        exact congrArg (front ++ ·) (List.eraseP_cons_of_pos matched)
      have pointers := inv.listed.pointers
      simp only [IPv6CDS.routerKeys, List.map_map, split, List.map_append, List.map_cons,
        List.nodup_append, List.nodup_cons] at pointers
      change (p, other) ∈ rt.cds.routers.eraseP _ at member
      rw [erased] at member
      rcases List.mem_append.mp member with early | late
      · exact pointers.2.2 p (List.mem_map.mpr ⟨_, early, rfl⟩) p (List.mem_cons_self ..) rfl
      · exact pointers.2.1.1 (List.mem_map.mpr ⟨_, late, rfl⟩)

/-- In every run in which no queued router is withdrawn, the expiry list holds only
routers of the default router list; the withdrawal of a queued router ends that. -/
theorem rel_owned_of_withdrawsUnqueued (heap : StdHeap SimTime) {rt rt' : RoutingTable6}
    {events : List DiscoveryEvent} (distinct : RoutersDistinct rt.cds)
    (unqueued : rt.rel = ExpiryEntryList.create true)
    (runs : Runs (DiscoveryEvent.step heap) WithdrawsUnqueued rt events rt') :
    (∀ p ∈ rt'.rel.entries, ∃ re, (p, re) ∈ rt'.cds.routers) ∧
      ∀ e rt'', e.step heap rt' = .ok rt'' → ¬ WithdrawsUnqueued rt' e →
        ∃ p ∈ rt''.rel.entries, ∀ re, (p, re) ∉ rt''.cds.routers := by
  have inv := runs.invariant RelInv (fun _ _ _ inv meets done => step_relInv inv meets done)
    (relInv_of_unqueued distinct unqueued)
  refine ⟨fun p inside => ?_, fun e rt'' done => withdrawal_dangles inv done⟩
  obtain ⟨k, member, rfl⟩ := inv.listed.owned p inside
  obtain ⟨r, present, rfl⟩ := List.mem_map.mp member
  exact ⟨r.2, present⟩

/-- An advertisement of the router `fe80::1` with no option. -/
def exampleRtrAd (lifetime : BitVec 16) : RtrAd := ⟨⟨0xFE800000, 0, 0, 1⟩, 0, lifetime, none, []⟩

theorem rel_owned_after_refresh :
    ∃ rt, run (DiscoveryEvent.step StdHeap.sorted) (RoutingTable6.create false 1)
        [.rtrAd 1 (exampleRtrAd 10), .rtrAd 2 (exampleRtrAd 20)] = .ok rt ∧
      ∀ p ∈ rt.rel.entries, ∃ re, (p, re) ∈ rt.cds.routers := by
  have distinct : RoutersDistinct (RoutingTable6.create false 1).cds :=
    ⟨List.nodup_nil, List.nodup_nil, fun _ absent => absurd absent List.not_mem_nil⟩
  refine ⟨_, rfl, (rel_owned_of_withdrawsUnqueued StdHeap.sorted distinct rfl
    (.cons (e := .rtrAd 1 (exampleRtrAd 10)) (withdrawsUnqueued_of_ne (by decide)) rfl
      (.cons (e := .rtrAd 2 (exampleRtrAd 20)) (withdrawsUnqueued_of_ne (by decide)) rfl
        (.nil _)))).1⟩

theorem withdrawn_router_stays_queued :
    ∃ rt, run (DiscoveryEvent.step StdHeap.sorted) (RoutingTable6.create false 1)
        [.rtrAd 1 (exampleRtrAd 10), .rtrAd 2 (exampleRtrAd 0)] = .ok rt ∧
      rt.rel.entries = [0] ∧ rt.cds.routers = [] :=
  ⟨_, rfl, rfl, rfl⟩

end NDStateHost

end IPv6Suite
