import IPv6Suite.PrefixList
import IPv6Suite.RouterExpiry

namespace IPv6Suite

open Lib
open IPv6CDS (SameLists)

namespace RoutingTable6

variable {rt rt' : RoutingTable6} {heap : StdHeap SimTime} {now : SimTime}

/-- The prefix list is well formed and the expiry list holds its finite prefixes,
except that nothing is known about the pointer `p`. -/
structure PelExcept (rt : RoutingTable6) (p : Ptr) : Prop where
  keys : PrefixKeys rt.cds.prefixList rt.cds.next
  queued : ∀ q, q ≠ p → (q ∈ rt.pel.entries ↔ FinitePrefix rt.cds.prefixList q)
  nodup : rt.pel.entries.Nodup
  relative : rt.pel.relative = true

structure PelInv (rt : RoutingTable6) : Prop where
  keys : PrefixKeys rt.cds.prefixList rt.cds.next
  queued : ∀ q, q ∈ rt.pel.entries ↔ FinitePrefix rt.cds.prefixList q
  nodup : rt.pel.entries.Nodup
  relative : rt.pel.relative = true
  isHeap : IsHeap rt.prefixExpiry rt.pel.entries

theorem prefixExpiry_of_stored (keys : PrefixKeys rt.cds.prefixList rt.cds.next)
    {k : IPv6Address} {node : PrefixNode} (stored : rt.cds.prefixList[k]? = some node) :
    rt.prefixExpiry node.ptr = node.entry.expiryTime := by
  rw [prefixExpiry, (IPv6CDS.prefixAt_eq_some keys).mpr ⟨k, node, stored, rfl, rfl⟩]
  rfl

theorem prefixLive_of_finite (keys : PrefixKeys rt.cds.prefixList rt.cds.next) {q : Ptr}
    (finite : FinitePrefix rt.cds.prefixList q) : rt.prefixLive q = true := by
  obtain ⟨k, node, stored, pointer, -⟩ := finite
  exact (IPv6CDS.prefixAt_isSome keys).mpr ⟨k, node, stored, pointer⟩

variable (heap now) in
theorem PelExcept.addOrUpdate {p : Ptr} (inv : rt.PelExcept p) (finite : FinitePrefix rt.cds.prefixList p) :
    ∃ rt', rt.pelAddOrUpdate heap now p = .ok rt' ∧ rt'.PelInv ∧ rt'.cds = rt.cds := by
  have live : ∀ q ∈ p :: rt.pel.entries, rt.prefixLive q = true := by
    intro q inside
    by_cases same : q = p
    · exact same ▸ prefixLive_of_finite inv.keys finite
    · exact prefixLive_of_finite inv.keys ((inv.queued q same).mp
        ((List.mem_cons.mp inside).resolve_left same))
  have restarted :=
    ExpiryEntryList.addOrUpdate_restarted heap rt.prefixExpiry now p inv.relative
  refine ⟨{ rt with pel := rt.pel.addOrUpdate heap rt.prefixExpiry now p }, ?_, ?_, rfl⟩
  · unfold pelAddOrUpdate
    rw [(checkLive_eq_ok (u := ())).mpr live]
    rfl
  · refine ⟨inv.keys, fun q => ?_, ExpiryEntryList.nodup_addOrUpdate inv.nodup,
      restarted.relative, restarted.isHeap⟩
    rw [ExpiryEntryList.mem_addOrUpdate]
    by_cases same : q = p
    · simp [same, finite]
    · simp [same, inv.queued q same]

variable {k : IPv6Address} {node : PrefixNode} {cds : IPv6CDS}

theorem PelInv.setNode (inv : rt.PelInv)
    (set : NodeSet rt.cds.prefixList cds.prefixList rt.cds.next cds.next k node) :
    ({ rt with cds } : RoutingTable6).PelExcept node.ptr where
  keys := set.keys inv.keys
  queued q apart := by
    rw [set.finite_ne apart]
    exact inv.queued q
  nodup := inv.nodup
  relative := inv.relative

theorem PelInv.setInfinite (inv : rt.PelInv)
    (set : NodeSet rt.cds.prefixList cds.prefixList rt.cds.next cds.next k node)
    (infinite : node.entry.advValidLifetime = validLifetimeInfinity)
    (unqueued : node.ptr ∉ rt.pel.entries) : ({ rt with cds } : RoutingTable6).PelInv := by
  have except := inv.setNode set
  refine ⟨except.keys, fun q => ?_, inv.nodup, inv.relative, ?_⟩
  · by_cases same : q = node.ptr
    · rw [same, set.finite_self inv.keys]
      simp [infinite, unqueued]
    · exact except.queued q same
  · refine inv.isHeap.congr fun q inside => ?_
    have apart : q ≠ node.ptr := fun same => unqueued (same ▸ inside)
    obtain ⟨k', other, stored, rfl, -⟩ := (inv.queued q).mp inside
    have away : k' ≠ k := by
      rintro rfl
      rcases set.pointer with ⟨old, before, oldPtr⟩ | ⟨missing, -, -⟩
      · rw [before, Option.some.injEq] at stored
        exact apart (stored ▸ oldPtr)
      · rw [missing] at stored
        cases stored
    have stored' := (set.others k' away).trans stored
    have after := prefixExpiry_of_stored except.keys stored'
    rw [prefixExpiry_of_stored inv.keys stored, after]

theorem PelInv.erase (inv : rt.PelInv) (stored : rt.cds.prefixList[k]? = some node)
    {pel : ExpiryEntryList Ptr}
    (entries : ∀ q, q ∈ pel.entries ↔ q ≠ node.ptr ∧ q ∈ rt.pel.entries)
    (nodup : pel.entries.Nodup) (relative : pel.relative = true)
    (isHeap : IsHeap rt.prefixExpiry pel.entries) :
    ({ rt with
      cds := { rt.cds with prefixList := rt.cds.prefixList.erase k }
      pel } : RoutingTable6).PelInv := by
  have keys := inv.keys.erase k
  refine ⟨keys, fun q => ?_, nodup, relative, isHeap.congr fun q inside => ?_⟩
  · change _ ↔ FinitePrefix (rt.cds.prefixList.erase k) q
    rw [entries, inv.queued, finitePrefix_erase inv.keys stored]
  · obtain ⟨apart, old⟩ := (entries q).mp inside
    obtain ⟨k', other, stored', rfl, -⟩ := (inv.queued q).mp old
    have away : k ≠ k' := by
      rintro rfl
      rw [stored, Option.some.injEq] at stored'
      exact apart (stored' ▸ rfl)
    have kept := (StdMap.getElem?_erase_ne away).trans stored'
    rw [prefixExpiry_of_stored inv.keys stored']
    exact Eq.symm (@prefixExpiry_of_stored { rt with
      cds := { rt.cds with prefixList := rt.cds.prefixList.erase k }, pel } keys k' other kept)

theorem removePrefixEntry_cds (keys : PrefixKeys rt.cds.prefixList rt.cds.next)
    (stored : rt.cds.prefixList[k]? = some node) : rt.cds.removePrefixEntry node.entry =
      .ok { rt.cds with prefixList := rt.cds.prefixList.erase k } := by
  have present : k ∈ rt.cds.prefixList := StdMap.mem_iff_exists.mpr ⟨node, stored⟩
  unfold IPv6CDS.removePrefixEntry
  rw [keys.key k node stored, assert_pos present]
  rfl

variable (heap now) in
theorem removePrefixEntry_pelInv (inv : rt.PelInv) (stored : rt.cds.prefixList[k]? = some node) :
    ∃ rt', rt.removePrefixEntry heap now node.ptr = .ok rt' ∧ rt'.PelInv := by
  have found := (IPv6CDS.prefixAt_eq_some inv.keys).mpr ⟨k, node, stored, rfl, rfl⟩
  have live : ∀ q ∈ rt.pel.entries, rt.prefixLive q = true := fun q inside =>
    prefixLive_of_finite inv.keys ((inv.queued q).mp inside)
  unfold removePrefixEntry
  rw [found, deref_some, ok_bind]
  split
  · rename_i finite
    have inside : node.ptr ∈ rt.pel.entries := (inv.queued _).mpr ⟨k, node, stored, rfl, finite⟩
    have restarted :=
      ExpiryEntryList.remove_restarted heap rt.prefixExpiry now inside inv.relative
    have removed : rt.pelRemove heap now node.ptr =
        .ok { rt with pel := rt.pel.remove heap rt.prefixExpiry now node.ptr } := by
      unfold pelRemove
      rw [if_pos inside, (checkLive_eq_ok (u := ())).mpr live]
      rfl
    rw [removed, ok_bind, removePrefixEntry_cds inv.keys stored]
    exact ⟨_, rfl, inv.erase stored (fun q => ExpiryEntryList.mem_remove inv.nodup)
      (ExpiryEntryList.nodup_remove inv.nodup) restarted.relative restarted.isHeap⟩
  · rename_i infinite
    have outside : node.ptr ∉ rt.pel.entries := by
      rw [inv.queued]
      rintro ⟨k', other, stored', same, finite⟩
      have equal := inv.keys.pointers _ _ _ _ stored' stored same
      rw [equal, stored, Option.some.injEq] at stored'
      exact infinite (stored' ▸ finite)
    rw [ok_bind, removePrefixEntry_cds inv.keys stored]
    refine ⟨_, rfl, inv.erase stored (fun q => ?_) inv.nodup inv.relative inv.isHeap⟩
    refine ⟨fun inside => ⟨?_, inside⟩, And.right⟩
    rintro rfl
    exact outside inside

variable (heap now) in
theorem prefixTimer_pelInv (inv : rt.PelInv) : ∃ rt', rt.prefixTimer heap now = .ok rt' ∧ rt'.PelInv ∧
      ∀ (k : IPv6Address) (node : PrefixNode), rt.cds.prefixList[k]? = some node →
        node.entry.advValidLifetime = validLifetimeInfinity → rt'.cds.prefixList[k]? = some node := by
  unfold prefixTimer
  cases split : rt.pel.entries with
  | nil =>
      obtain ⟨none, popped⟩ := ExpiryEntryList.popExpired_nil heap rt.prefixExpiry now split
      rw [none, popped]
      obtain ⟨keys, queued, nodup, relative, isHeap⟩ := inv
      exact ⟨_, rfl, ⟨keys, queued, nodup, relative, isHeap⟩, fun k node stored _ => stored⟩
  | cons front rest =>
      obtain ⟨handed, perm, restarted⟩ := ExpiryEntryList.popExpired_cons heap now split
        inv.isHeap inv.relative
      obtain ⟨k, node, stored, rfl, finite⟩ := (inv.queued front).mp (split ▸ List.mem_cons_self ..)
      have apart := List.nodup_cons.mp (split ▸ inv.nodup)
      have live : ∀ q ∈ node.ptr :: rest, rt.prefixLive q = true := fun q inside =>
        prefixLive_of_finite inv.keys ((inv.queued q).mp (split ▸ inside))
      have entries : ∀ q, q ∈ (rt.pel.popExpired heap rt.prefixExpiry now).entries ↔
          q ≠ node.ptr ∧ q ∈ rt.pel.entries := by
        intro q
        rw [perm.mem_iff, split, List.mem_cons]
        by_cases same : q = node.ptr
        · simp [same, apart.1]
        · simp [same]
      have inv' := inv.erase stored entries (perm.nodup_iff.mpr apart.2) restarted.relative
        restarted.isHeap
      have timeout : rt.prefixTimeout node.ptr = .ok { rt with
          cds := { rt.cds with prefixList := rt.cds.prefixList.erase k } } := by
        unfold prefixTimeout
        rw [(IPv6CDS.prefixAt_eq_some inv.keys).mpr ⟨k, node, stored, rfl, rfl⟩,
          deref_some, ok_bind, removePrefixEntry_cds inv.keys stored]
        rfl
      have live' : ∀ q ∈ (rt.pel.popExpired heap rt.prefixExpiry now).entries.take 1,
          ({ rt with cds := { rt.cds with prefixList := rt.cds.prefixList.erase k } } :
            RoutingTable6).prefixLive q = true := fun q inside =>
        prefixLive_of_finite inv'.keys ((inv'.queued q).mp (List.mem_of_mem_take inside))
      rw [handed]
      simp only [(checkLive_eq_ok (u := ())).mpr live, ok_bind, timeout,
        (checkLive_eq_ok (u := ())).mpr live', pure_eq_ok]
      refine ⟨_, rfl, inv', fun k' other stored' infinite => ?_⟩
      have away : k ≠ k' := by
        rintro rfl
        rw [stored, Option.some.injEq] at stored'
        exact finite (stored' ▸ infinite)
      exact (StdMap.getElem?_erase_ne away).trans stored'

/-- A change that leaves the prefixes and their expiry list alone and takes no pointer
back. -/
structure PelFrame (rt rt' : RoutingTable6) : Prop where
  prefixes : rt'.cds.prefixList = rt.cds.prefixList
  next : rt.cds.next ≤ rt'.cds.next
  pel : rt'.pel = rt.pel

theorem PelFrame.refl (rt : RoutingTable6) : PelFrame rt rt := ⟨rfl, Nat.le_refl _, rfl⟩

theorem PelFrame.trans {a b c : RoutingTable6} (first : PelFrame a b) (second : PelFrame b c) : PelFrame a c :=
  ⟨second.prefixes.trans first.prefixes, Nat.le_trans first.next second.next,
    second.pel.trans first.pel⟩

theorem PelFrame.of_sameLists {cds : IPv6CDS} (same : SameLists rt.cds cds) : PelFrame rt { rt with cds } :=
  ⟨same.prefixes, Nat.le_of_eq same.next.symm, rfl⟩

theorem PelInv.frame (inv : rt.PelInv) (frame : PelFrame rt rt') : rt'.PelInv := by
  obtain ⟨⟨key, pointers, fresh⟩, queued, nodup, relative, isHeap⟩ := inv
  have expiry : rt'.prefixExpiry = rt.prefixExpiry := by
    funext p
    unfold prefixExpiry IPv6CDS.prefixAt
    rw [frame.prefixes]
  refine ⟨?_, ?_, ?_, ?_, ?_⟩
  · rw [frame.prefixes]
    exact ⟨key, pointers, fun k node stored => Nat.lt_of_lt_of_le (fresh k node stored) frame.next⟩
  · rw [frame.prefixes, frame.pel]
    exact queued
  · rw [frame.pel]
    exact nodup
  · rw [frame.pel]
    exact relative
  · rw [frame.pel, expiry]
    exact isHeap

theorem relAddOrUpdate_pelFrame {p : Ptr} (done : rt.relAddOrUpdate heap now p = .ok rt') : PelFrame rt rt' := by
  obtain ⟨-, -, done⟩ := bind_eq_ok.mp done
  cases done
  exact ⟨rfl, Nat.le_refl _, rfl⟩

theorem insertRouterEntry_pelFrame {re : RouterEntry} {p : Ptr}
    (done : rt.insertRouterEntry heap now re false = .ok (p, rt')) : PelFrame rt rt' := by
  simp only [insertRouterEntry, bind_eq_ok] at done
  obtain ⟨⟨q, cds⟩, inserted, done⟩ := done
  obtain ⟨-, -, prefixes, next⟩ := IPv6CDS.insertRouterEntry_eq_ok inserted
  have pushed : PelFrame rt { rt with cds } :=
    ⟨prefixes, Nat.le_of_lt (next ▸ Nat.lt_succ_self _), rfl⟩
  split at done
  · obtain ⟨rt'', queued, done⟩ := bind_eq_ok.mp done
    cases done
    exact pushed.trans (relAddOrUpdate_pelFrame queued)
  · cases done
    exact pushed

theorem routerTimer_pelFrame (done : rt.routerTimer heap now = .ok rt') : PelFrame rt rt' := by
  unfold routerTimer at done
  dsimp only at done
  split at done
  · cases done
    exact ⟨rfl, Nat.le_refl _, rfl⟩
  · simp only [bind_eq_ok, routerTimeout] at done
    obtain ⟨-, -, middle, ⟨re, -, timeout⟩, -, -, done⟩ := done
    cases timeout
    cases done
    exact ⟨rfl, Nat.le_refl _, rfl⟩

end RoutingTable6

namespace NDStateHost

open RoutingTable6

variable {rt rt' : RoutingTable6} {heap : StdHeap SimTime} {now : SimTime} {ifIndex : Nat}
variable {prefixes : List Ptr} {opt : OptPrefix}

/-- Whether the pointer's prefix has the option's address. -/
def matchesAddr (cds : IPv6CDS) (addr : Ipv6Addr) (p : Ptr) : Bool :=
  (cds.prefixAt p).any (·.prefixAddr.addr = addr)

/-- The first of the interface's prefixes with the option's address. -/
def matching (cds : IPv6CDS) (prefixes : List Ptr) (addr : Ipv6Addr) : Option Ptr :=
  prefixes.find? (matchesAddr cds addr)

/-- The stored prefix that an option updates, or else overwrites. -/
def updated (cds : IPv6CDS) (prefixes : List Ptr) (opt : OptPrefix) : Option PrefixEntry :=
  match matching cds prefixes opt.prefixAddr with
  | some p => cds.prefixAt p
  | none => (cds.getPrefixEntry (PrefixEntry.ofOpt opt).prefixAddr).map (·.entry)

/-- An infinite lifetime is advertised only for a prefix whose lifetime is not finite. -/
def KeepsInfinite (cds : IPv6CDS) (prefixes : List Ptr) (opt : OptPrefix) : Prop :=
  opt.validLifetime = validLifetimeInfinity →
    ∀ pe, updated cds prefixes opt = some pe → pe.advValidLifetime = validLifetimeInfinity

/-- No entry that was freed stands before the match. -/
def SearchLive (cds : IPv6CDS) (prefixes : List Ptr) (addr : Ipv6Addr) : Prop :=
  ∀ p ∈ prefixes.takeWhile (! matchesAddr cds addr ·), (cds.prefixAt p).isSome = true

/-- Every option for the prefix list keeps infinite lifetimes, and its search does not
reach a prefix that an earlier option took back. -/
def OptionsMeet (heap : StdHeap SimTime) (now : SimTime) (ifIndex : Nat) (prefixes : List Ptr) :
    RoutingTable6 → List OptPrefix → Prop
  | _, [] => True
  | rt, opt :: rest =>
      (forPrefixList opt = true →
        KeepsInfinite rt.cds prefixes opt ∧ SearchLive rt.cds prefixes opt.prefixAddr) ∧
      ∀ rt', processPrefix heap now ifIndex prefixes rt opt = .ok rt' →
        OptionsMeet heap now ifIndex prefixes rt' rest

theorem findPrefix_eq {cds : IPv6CDS} {addr : Ipv6Addr} (live : SearchLive cds prefixes addr) :
    findPrefix cds addr prefixes = .ok (matching cds prefixes addr) := by
  induction prefixes with
  | nil => rfl
  | cons p rest ih =>
      unfold findPrefix matching
      by_cases same : matchesAddr cds addr p = true
      · rw [List.find?_cons_of_pos same]
        cases found : cds.prefixAt p with
        | none => simp [matchesAddr, found] at same
        | some pe => exact if_pos (by simpa [matchesAddr, found] using same)
      · have skipped : (! matchesAddr cds addr p) = true := by simpa using same
        have before : (p :: rest).takeWhile (! matchesAddr cds addr ·) =
            p :: rest.takeWhile (! matchesAddr cds addr ·) := List.takeWhile_cons_of_pos skipped
        unfold SearchLive at live
        rw [before] at live
        obtain ⟨pe, found⟩ := Option.isSome_iff_exists.mp (live p (List.mem_cons_self ..))
        have tail := ih fun q inside => live q (List.mem_cons_of_mem _ inside)
        have apart : pe.prefixAddr.addr ≠ addr := by simpa [matchesAddr, found] using same
        rw [List.find?_cons_of_neg same, found]
        simp only [apart, ↓reduceIte, tail, matching]

theorem matching_stored {cds : IPv6CDS} {next p : Ptr} {addr : Ipv6Addr}
    (keys : PrefixKeys cds.prefixList next) (found : matching cds prefixes addr = some p) :
    ∃ (k : IPv6Address) (node : PrefixNode), cds.prefixList[k]? = some node ∧ node.ptr = p ∧
      cds.prefixAt p = some node.entry := by
  have matched := List.find?_some found
  cases located : cds.prefixAt p with
  | none => simp [matchesAddr, located] at matched
  | some pe =>
      obtain ⟨k, node, stored, pointer, same⟩ := (IPv6CDS.prefixAt_eq_some keys).mp located
      exact ⟨k, node, stored, pointer, congrArg some same.symm⟩

theorem not_queued_of_infinite {k : IPv6Address} {node : PrefixNode} (inv : rt.PelInv)
    (stored : rt.cds.prefixList[k]? = some node) (infinite : node.entry.advValidLifetime = validLifetimeInfinity) :
    node.ptr ∉ rt.pel.entries := by
  rw [inv.queued]
  rintro ⟨k', other, stored', same, finite⟩
  have equal := inv.keys.pointers _ _ _ _ stored' stored same
  rw [equal, stored, Option.some.injEq] at stored'
  exact finite (stored' ▸ infinite)

theorem not_queued_of_nodeSet {cds : IPv6CDS} {k : IPv6Address} {node : PrefixNode} (inv : rt.PelInv)
    (set : NodeSet rt.cds.prefixList cds.prefixList rt.cds.next cds.next k node)
    (infinite : ∀ old : PrefixNode, rt.cds.prefixList[k]? = some old →
      old.entry.advValidLifetime = validLifetimeInfinity) : node.ptr ∉ rt.pel.entries := by
  rcases set.pointer with ⟨old, stored, pointer⟩ | ⟨-, fresh, -⟩
  · rw [← pointer]
    exact not_queued_of_infinite inv stored (infinite old stored)
  · rw [inv.queued, fresh]
    rintro ⟨k', other, stored, same, -⟩
    exact Nat.ne_of_lt (inv.keys.fresh k' other stored) same

theorem setNode_pelInv {cds : IPv6CDS} {k : IPv6Address} {node : PrefixNode}
    (heap : StdHeap SimTime) (now : SimTime) (inv : rt.PelInv)
    (set : NodeSet rt.cds.prefixList cds.prefixList rt.cds.next cds.next k node)
    (keeps : node.entry.advValidLifetime = validLifetimeInfinity →
      ∀ old : PrefixNode, rt.cds.prefixList[k]? = some old →
        old.entry.advValidLifetime = validLifetimeInfinity) :
    ∃ rt', (if node.entry.advValidLifetime ≠ validLifetimeInfinity then
        ({ rt with cds } : RoutingTable6).pelAddOrUpdate heap now node.ptr
      else .ok { rt with cds }) = .ok rt' ∧ rt'.PelInv := by
  by_cases finite : node.entry.advValidLifetime ≠ validLifetimeInfinity
  · rw [if_pos finite]
    obtain ⟨rt', done, inv', -⟩ :=
      (inv.setNode set).addOrUpdate heap now ((set.finite_self inv.keys).mpr finite)
    exact ⟨rt', done, inv'⟩
  · rw [if_neg finite]
    have infinite := not_not.mp finite
    exact ⟨_, rfl, inv.setInfinite set infinite (not_queued_of_nodeSet inv set (keeps infinite))⟩

/-- One option that meets its condition is processed without a fault. -/
theorem processPrefix_pelInv (heap : StdHeap SimTime) (now : SimTime) (ifIndex : Nat)
    (inv : rt.PelInv) (meets : forPrefixList opt = true →
      KeepsInfinite rt.cds prefixes opt ∧ SearchLive rt.cds prefixes opt.prefixAddr) :
    ∃ rt', processPrefix heap now ifIndex prefixes rt opt = .ok rt' ∧ rt'.PelInv := by
  unfold processPrefix
  by_cases listed : forPrefixList opt = true
  · obtain ⟨keeps, live⟩ := meets listed
    rw [if_pos listed, findPrefix_eq live, ok_bind]
    cases found : matching rt.cds prefixes opt.prefixAddr with
    | some p =>
        obtain ⟨k, node, stored, rfl, located⟩ := matching_stored inv.keys found
        dsimp only
        by_cases zero : opt.validLifetime = 0
        · have queuedLive : ∀ q ∈ rt.pel.entries, rt.prefixLive q = true := fun q inside =>
            prefixLive_of_finite inv.keys ((inv.queued q).mp inside)
          rw [if_neg (not_not.mpr zero), (checkLive_eq_ok (u := ())).mpr queuedLive, ok_bind]
          exact removePrefixEntry_pelInv heap now inv stored
        · rw [if_pos zero]
          simp only [lifetime_lt_infinity]
          refine setNode_pelInv heap now inv
            (IPv6CDS.setAdvValidLifetime_nodeSet inv.keys stored opt.validLifetime) ?_
          intro infinite old before
          rw [stored, Option.some.injEq] at before
          rw [← before]
          exact keeps infinite node.entry (by rw [updated, found]; exact located)
    | none =>
        dsimp only
        by_cases zero : opt.validLifetime = 0
        · rw [if_neg (not_not.mpr zero)]
          exact ⟨rt, rfl, inv⟩
        · rw [if_pos zero]
          refine setNode_pelInv heap now inv
            (IPv6CDS.insertPrefixEntry_nodeSet rt.cds (PrefixEntry.ofOpt opt) ifIndex) ?_
          intro infinite old before
          refine keeps infinite old.entry ?_
          rw [updated, found]
          exact congrArg (Option.map (·.entry)) before
  · rw [if_neg listed]
    exact ⟨rt, rfl, inv⟩

/-- The whole loop. -/
theorem processPrefixes_pelInv (heap : StdHeap SimTime) (now : SimTime) (ifIndex : Nat)
    {opts : List OptPrefix} (inv : rt.PelInv) (meets : OptionsMeet heap now ifIndex prefixes rt opts) :
    ∃ rt', processPrefixes heap now ifIndex prefixes rt opts = .ok rt' ∧ rt'.PelInv := by
  induction opts generalizing rt with
  | nil => exact ⟨rt, rfl, inv⟩
  | cons opt rest ih =>
      obtain ⟨first, others⟩ := meets
      obtain ⟨middle, done, inv'⟩ := processPrefix_pelInv heap now ifIndex inv first
      obtain ⟨rt', finished, inv''⟩ := ih inv' (others middle done)
      refine ⟨rt', ?_, inv''⟩
      unfold processPrefixes
      rw [done, ok_bind, finished]

theorem refreshRouter_pelFrame {ra : RtrAd} {p : Ptr}
    (done : refreshRouter heap now rt ra p = .ok rt') : PelFrame rt rt' := by
  simp only [refreshRouter, bind_eq_ok] at done
  obtain ⟨middle, queued, cds, restored, done⟩ := done
  cases done
  have requeued := relAddOrUpdate_pelFrame queued
  refine PelFrame.trans ⟨requeued.prefixes, requeued.next, requeued.pel⟩ ?_
  split at restored
  · have same := restoreDestEntry_same restored
    exact ⟨same.prefixes, Nat.le_of_eq same.next.symm, rfl⟩
  · cases restored
    exact ⟨rfl, Nat.le_refl _, rfl⟩

theorem processRouter_pelFrame {ra : RtrAd} {continues : Bool}
    (done : processRouter heap now rt ra = .ok (rt', continues)) : PelFrame rt rt' := by
  unfold processRouter at done
  cases found : rt.cds.router ra.srcAddress with
  | none =>
      simp only [found] at done
      split at done
      · obtain ⟨⟨p, middle⟩, inserted, done⟩ := bind_eq_ok.mp done
        cases done
        exact (insertRouterEntry_pelFrame inserted).trans ⟨rfl, Nat.le_refl _, rfl⟩
      · cases done
        exact PelFrame.refl rt
  | some router =>
      simp only [found] at done
      split at done
      · obtain ⟨middle, refreshed, done⟩ := bind_eq_ok.mp done
        cases done
        exact refreshRouter_pelFrame refreshed
      · cases done
        exact ⟨rfl, Nat.le_refl _, rfl⟩

/-- The options of an advertisement meet their condition when the loop reaches them. -/
def PrefixesMeet (heap : StdHeap SimTime) (rt : RoutingTable6) : DiscoveryEvent → Prop
  | .rtrAd now ra => ∀ rt₁ rt₂, processRouter heap now rt ra = .ok (rt₁, true) →
      processLinkLayer rt₁ ra = .ok rt₂ →
      OptionsMeet heap now ra.inputPort (rt₂.cds.getPrefixesByIndex ra.inputPort) rt₂ ra.prefixes
  | .routerTimer _ => True
  | .prefixTimer _ => True

theorem step_pelInv {e : DiscoveryEvent} (inv : rt.PelInv) (meets : PrefixesMeet heap rt e)
    (done : e.step heap rt = .ok rt') : rt'.PelInv := by
  cases e with
  | rtrAd now ra =>
      simp only [DiscoveryEvent.step, processRtrAd, bind_eq_ok] at done
      obtain ⟨-, -, ⟨routed, continues⟩, routing, done⟩ := done
      have inv' := inv.frame (processRouter_pelFrame routing)
      cases continues with
      | false =>
          cases done
          exact inv'
      | true =>
          obtain ⟨linked, linking, done⟩ := bind_eq_ok.mp done
          obtain ⟨cds, rfl, same⟩ := processLinkLayer_same linking
          obtain ⟨rt'', finished, inv''⟩ := processPrefixes_pelInv heap now ra.inputPort
            (inv'.frame (PelFrame.of_sameLists same)) (meets _ _ routing linking)
          rw [finished] at done
          cases done
          exact inv''
  | routerTimer now => exact inv.frame (routerTimer_pelFrame done)
  | prefixTimer now =>
      obtain ⟨rt'', finished, inv', -⟩ := prefixTimer_pelInv heap now inv
      rw [DiscoveryEvent.step, finished] at done
      cases done
      exact inv'

theorem pelInv_of_unqueued (keys : PrefixKeys rt.cds.prefixList rt.cds.next)
    (infinite : ∀ p, ¬ FinitePrefix rt.cds.prefixList p)
    (unqueued : rt.pel = ExpiryEntryList.create true) : rt.PelInv := by
  refine ⟨keys, fun p => ?_, ?_, ?_, ?_⟩
  · rw [unqueued]
    exact ⟨fun inside => absurd inside List.not_mem_nil, fun finite => absurd finite (infinite p)⟩
  · rw [unqueued]
    exact List.nodup_nil
  · rw [unqueued]
    rfl
  · rw [unqueued]
    exact fun c inside => absurd inside (Nat.not_lt_zero c)

/-- In every run whose options keep infinite lifetimes and search live prefixes, the
expiry list holds the finite prefixes, and a firing leaves the infinite ones stored. -/
theorem pel_finite_of_prefixesMeet (heap : StdHeap SimTime) {rt rt' : RoutingTable6}
    {events : List DiscoveryEvent} (keys : PrefixKeys rt.cds.prefixList rt.cds.next)
    (infinite : ∀ p, ¬ FinitePrefix rt.cds.prefixList p)
    (unqueued : rt.pel = ExpiryEntryList.create true)
    (runs : Runs (DiscoveryEvent.step heap) (PrefixesMeet heap) rt events rt') :
    (∀ p, p ∈ rt'.pel.entries ↔ FinitePrefix rt'.cds.prefixList p) ∧
      ∀ now, ∃ rt'', rt'.prefixTimer heap now = .ok rt'' ∧
        ∀ (k : IPv6Address) (node : PrefixNode), rt'.cds.prefixList[k]? = some node →
          node.entry.advValidLifetime = validLifetimeInfinity →
          rt''.cds.prefixList[k]? = some node := by
  have inv := runs.invariant PelInv (fun _ _ _ inv meets done => step_pelInv inv meets done)
    (pelInv_of_unqueued keys infinite unqueued)
  refine ⟨inv.queued, fun now => ?_⟩
  obtain ⟨rt'', done, -, stay⟩ := prefixTimer_pelInv heap now inv
  exact ⟨rt'', done, stay⟩

/-- An advertisement of the prefix `2001:db8::/64`, which leaves the router list alone. -/
def exampleOption (lifetime : BitVec 32) : OptPrefix where
  prefixLen := 64
  onLink := true
  autoConf := false
  validLifetime := lifetime
  preferredLifetime := lifetime
  prefixAddr := ⟨0x20010db8, 0, 0, 0⟩
  rtrAddr := false

def examplePrefixRtrAd (lifetime : BitVec 32) : RtrAd :=
  ⟨⟨0xFE800000, 0, 0, 1⟩, 0, 0, none, [exampleOption lifetime]⟩

theorem pel_finite_after_advertisement :
    ∃ rt, run (DiscoveryEvent.step StdHeap.sorted) (RoutingTable6.create false 1)
        [.rtrAd 1 (examplePrefixRtrAd 100)] = .ok rt ∧
      ∀ p, p ∈ rt.pel.entries ↔ FinitePrefix rt.cds.prefixList p := by
  have absent : ∀ k : IPv6Address, (RoutingTable6.create false 1).cds.prefixList[k]? = none :=
    fun k => rfl
  have keys : PrefixKeys (RoutingTable6.create false 1).cds.prefixList
      (RoutingTable6.create false 1).cds.next := by
    refine ⟨fun k node stored => ?_, fun k₁ n₁ k₂ n₂ stored => ?_, fun k node stored => ?_⟩ <;>
      rw [absent] at stored <;> cases stored
  have infinite : ∀ p, ¬ FinitePrefix (RoutingTable6.create false 1).cds.prefixList p := by
    rintro p ⟨k, node, stored, -⟩
    rw [absent] at stored
    cases stored
  have meets : PrefixesMeet StdHeap.sorted (RoutingTable6.create false 1)
      (.rtrAd 1 (examplePrefixRtrAd 100)) := by
    intro rt₁ rt₂ routed linked
    cases routed
    cases linked
    refine ⟨fun _ => ⟨fun equal => absurd equal (by decide), fun p inside => ?_⟩,
      fun rt' _ => trivial⟩
    cases inside
  exact ⟨_, rfl, (pel_finite_of_prefixesMeet StdHeap.sorted keys infinite rfl
    (.cons (e := .rtrAd 1 (examplePrefixRtrAd 100)) meets rfl (.nil _))).1⟩

/-- A prefix that becomes infinite stays queued, and the timer removes it. -/
theorem infinite_prefix_expires :
    ∃ rt rt', run (DiscoveryEvent.step StdHeap.sorted) (RoutingTable6.create false 1)
        [.rtrAd 1 (examplePrefixRtrAd 100),
          .rtrAd 2 (examplePrefixRtrAd validLifetimeInfinity)] = .ok rt ∧
      rt.pel.entries = [0] ∧
      (rt.cds.prefixAt 0).map (·.advValidLifetime) = some validLifetimeInfinity ∧
      rt.prefixTimer StdHeap.sorted 101 = .ok rt' ∧ rt'.cds.prefixAt 0 = none :=
  ⟨_, _, rfl, rfl, rfl, rfl, rfl⟩

end NDStateHost

end IPv6Suite
