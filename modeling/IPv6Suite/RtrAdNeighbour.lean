import IPv6Suite.Lib.Ensures
import IPv6Suite.NDStateHost

namespace IPv6Suite

open Lib

namespace IPv6CDS

variable {cds : IPv6CDS} {addr : Ipv6Addr}

/-- The destination entry of `addr` leads to a neighbour that exists. -/
def Linked (cds : IPv6CDS) (addr : Ipv6Addr) : Prop := (cds.lock (cds.neighbour addr)).isSome = true
deriving Decidable

theorem deref_router {p : Ptr} {re : RouterEntry} (found : cds.router addr = some (p, re)) :
    (cds.deref p).isSome = true := by
  have member := List.mem_of_find?_eq_some found
  have located : (cds.routers.find? (·.1 = p)).isSome = true := by
    rw [List.find?_isSome]
    exact ⟨(p, re), member, by simp⟩
  simp [deref, located]

theorem neighbour_setDestEntry (cds : IPv6CDS) (addr : Ipv6Addr) (de : DestinationEntry) :
    (cds.setDestEntry addr de).neighbour addr = de.neighbour := by
  rw [neighbour, findDestEntry, setDestEntry, StdMap.getElem?_insert_self]
  rfl

theorem linked_setDestEntry {de : DestinationEntry} (known : (cds.router addr).isSome = true)
    (own : de.neighbour = (cds.router addr).map (·.1)) : (cds.setDestEntry addr de).Linked addr := by
  obtain ⟨⟨p, re⟩, found⟩ := Option.isSome_iff_exists.mp known
  unfold Linked
  rw [neighbour_setDestEntry, own, found]
  exact deref_router found

theorem isSome_routerAt_modifyRouter (cds : IPv6CDS) (p q : Ptr) (f : RouterEntry → RouterEntry) :
    ((cds.modifyRouter p f).routerAt q).isSome = (cds.routerAt q).isSome := by
  simp only [routerAt, modifyRouter, List.find?_map, Option.isSome_map]
  congr 2
  funext r
  simp only [Function.comp_apply]
  split <;> rfl

theorem isSome_deref_modifyRouter (cds : IPv6CDS) (p q : Ptr) (f : RouterEntry → RouterEntry) :
    ((cds.modifyRouter p f).deref q).isSome = (cds.deref q).isSome := by
  have same := isSome_routerAt_modifyRouter cds p q f
  simp only [routerAt, Option.isSome_map] at same
  unfold deref
  simp only [Option.isSome_or, Option.isSome_map, same]
  rfl

theorem linked_modifyRouter (cds : IPv6CDS) (p : Ptr) (f : RouterEntry → RouterEntry) (addr : Ipv6Addr) :
    (cds.modifyRouter p f).Linked addr ↔ cds.Linked addr := by
  unfold Linked lock
  change ((cds.neighbour addr).bind (cds.modifyRouter p f).deref).isSome = true ↔ _
  cases cds.neighbour addr with
  | none => rfl
  | some q => simp only [Option.bind_some, isSome_deref_modifyRouter]

theorem isSome_router_modifyRouter {f : RouterEntry → RouterEntry} (p : Ptr)
    (address : ∀ re, (f re).unicastAddr = re.unicastAddr) :
    ((cds.modifyRouter p f).router addr).isSome = (cds.router addr).isSome := by
  simp only [router, modifyRouter, List.find?_map, Option.isSome_map]
  congr 2
  funext r
  simp only [Function.comp_apply]
  split
  · rw [address]
  · rfl

end IPv6CDS

/-- Nothing empty is looked through. -/
abbrev NoNull {α : Type} (post : α → Prop) (r : Exec α) : Prop := Ensures (· ≠ .nullDeref) post r

namespace RoutingTable6

variable {heap : StdHeap SimTime} {now : SimTime} {rt : RoutingTable6} {p : Ptr}

theorem noNull_assert (holds : Prop) [Decidable holds] : NoNull (fun _ => holds) (Exec.assert holds) := by
  unfold Exec.assert
  split
  · assumption
  · exact Fault.noConfusion

theorem noNull_checkLive (live : Ptr → Bool) (ptrs : List Ptr) :
    NoNull (fun _ => ∀ p ∈ ptrs, live p = true) (checkLive live ptrs) := by
  unfold checkLive
  split
  · rename_i all
    exact List.all_eq_true.mp all
  · exact Fault.noConfusion

/-- The call reads every router whose timer runs. -/
structure Updated (rt rt' : RoutingTable6) : Prop where
  cds : rt'.cds = rt.cds
  support : rt'.mipv6Support = rt.mipv6Support
  live : ∀ q ∈ rt.rel.entries, rt.routerLive q = true

theorem noNull_relAddOrUpdate : NoNull (Updated rt) (rt.relAddOrUpdate heap now p) :=
  (noNull_checkLive _ _).bind fun _ live => ⟨rfl, rfl, fun q inside => live q (List.mem_cons_of_mem _ inside)⟩

theorem noNull_pelAddOrUpdate : NoNull (fun _ => True) (rt.pelAddOrUpdate heap now p) :=
  (noNull_checkLive _ _).bind fun _ _ => True.intro

theorem noNull_pelRemove : NoNull (fun _ => True) (rt.pelRemove heap now p) := by
  unfold pelRemove
  split
  · exact (noNull_checkLive _ _).bind fun _ _ => True.intro
  · trivial

theorem noNull_useAfterFree {α : Type} (pointer : Option α) :
    NoNull (fun _ => True) (Exec.deref .useAfterFree pointer) := by
  cases pointer with
  | none => exact Fault.noConfusion
  | some value => trivial

theorem noNull_removeNeighbourEntry {cds : IPv6CDS} {addr : Ipv6Addr} :
    NoNull (fun _ => True) (cds.removeNeighbourEntry addr) := by
  unfold IPv6CDS.removeNeighbourEntry
  split
  · exact (noNull_assert _).bind fun _ _ => True.intro
  · trivial

theorem noNull_removePrefixEntry : NoNull (fun _ => True) (rt.removePrefixEntry heap now p) := by
  refine (noNull_useAfterFree _).bind fun pe _ => ?_
  have waiting : NoNull (fun _ => True)
      (if pe.advValidLifetime ≠ validLifetimeInfinity then rt.pelRemove heap now p else .ok rt) :=
    Ensures.ite (fun _ => noNull_pelRemove) fun _ => True.intro
  refine waiting.bind fun rt _ => ?_
  have erased : NoNull (fun _ => True) (rt.cds.removePrefixEntry pe) :=
    (noNull_assert _).bind fun _ _ => True.intro
  exact erased.bind fun _ _ => True.intro

theorem noNull_insertPrefixEntry (pe : PrefixEntry) (ifIndex : Nat) :
    NoNull (fun _ => True) (rt.insertPrefixEntry heap now pe ifIndex) :=
  Ensures.ite (fun _ => noNull_pelAddOrUpdate) fun _ => True.intro

end RoutingTable6

namespace NDStateHost

variable {heap : StdHeap SimTime} {now : SimTime} {rt : RoutingTable6} {ra : RtrAd} {cds : IPv6CDS} {addr : Ipv6Addr}

theorem noNull_findPrefix (prefixes : List Ptr) : NoNull (fun _ => True) (findPrefix cds addr prefixes) := by
  induction prefixes with
  | nil => trivial
  | cons p rest ih =>
      unfold findPrefix
      split
      · exact Fault.noConfusion
      · exact Ensures.ite (fun _ => True.intro) fun _ => ih

theorem noNull_processPrefix (ifIndex : Nat) (prefixes : List Ptr) (opt : OptPrefix) :
    NoNull (fun _ => True) (processPrefix heap now ifIndex prefixes rt opt) := by
  unfold processPrefix
  refine Ensures.ite (fun _ => ?_) fun _ => True.intro
  refine (noNull_findPrefix prefixes).bind fun found _ => ?_
  cases found with
  | some p =>
      refine Ensures.ite (fun _ => Ensures.ite (fun _ => RoutingTable6.noNull_pelAddOrUpdate) fun _ => True.intro) fun _ => ?_
      exact (RoutingTable6.noNull_checkLive _ _).bind fun _ _ => RoutingTable6.noNull_removePrefixEntry
  | none => exact Ensures.ite (fun _ => RoutingTable6.noNull_insertPrefixEntry _ _) fun _ => True.intro

theorem noNull_processPrefixes (ifIndex : Nat) (prefixes : List Ptr) (opts : List OptPrefix) :
    NoNull (fun _ => True) (processPrefixes heap now ifIndex prefixes rt opts) := by
  induction opts generalizing rt with
  | nil => trivial
  | cons opt rest ih => exact (noNull_processPrefix ifIndex prefixes opt).bind fun _ _ => ih

theorem noNull_restoreDestEntry (known : (cds.router addr).isSome = true) :
    NoNull (fun _ => True) (restoreDestEntry cds addr) := by
  unfold restoreDestEntry
  dsimp only
  have linked : ∀ cds', cds' = (if (cds.lock (cds.neighbour addr)).isNone = true then
      cds.setDestEntry addr { neighbour := (cds.router addr).map (·.1) } else cds) → cds'.Linked addr := by
    rintro cds' rfl
    split
    · exact IPv6CDS.linked_setDestEntry known rfl
    · rename_i present
      exact Option.isSome_iff_ne_none.mpr (by simpa using present)
  obtain ⟨ngbr, found⟩ := Option.isSome_iff_exists.mp (linked _ rfl)
  rw [found, deref_some]
  trivial

theorem noNull_refreshRouter {p : Ptr} {re : RouterEntry} (known : rt.cds.router ra.srcAddress = some (p, re)) :
    NoNull (fun rt' => rt'.mipv6Support = rt.mipv6Support ∧ (∀ q ∈ rt.rel.entries, rt.routerLive q = true) ∧
      (rt.mipv6Support = false → (rt'.cds.Linked ra.srcAddress ↔ rt.cds.Linked ra.srcAddress)))
      (refreshRouter heap now rt ra p) := by
  unfold refreshRouter
  dsimp only
  refine RoutingTable6.noNull_relAddOrUpdate.bind fun middle ⟨same, support, read⟩ => ?_
  have live (q : Ptr) (inside : q ∈ rt.rel.entries) : rt.routerLive q = true := by
    rw [← read q inside]
    exact (IPv6CDS.isSome_routerAt_modifyRouter rt.cds p q _).symm
  have linked (f : RouterEntry → RouterEntry) :
      (middle.cds.modifyRouter p f).Linked ra.srcAddress ↔ rt.cds.Linked ra.srcAddress := by
    rw [IPv6CDS.linked_modifyRouter, same, IPv6CDS.linked_modifyRouter]
  cases mobility : middle.mipv6Support with
  | true =>
      have address (re : RouterEntry) : (refreshLinkLayer true ra.srcLLAddr re).unicastAddr = re.unicastAddr := by
        unfold refreshLinkLayer
        split
        · rfl
        · split_ifs <;> rfl
      have present : ((middle.cds.modifyRouter p (refreshLinkLayer true ra.srcLLAddr)).router ra.srcAddress).isSome =
          true := by
        rw [IPv6CDS.isSome_router_modifyRouter p address, same]
        refine (IPv6CDS.isSome_router_modifyRouter
          (f := ({ · with invalidTime := ra.routerLifetime.setWidth 32 })) p fun _ => rfl).trans ?_
        rw [known]
        rfl
      refine (noNull_restoreDestEntry present).bind fun cds _ => ⟨mobility.symm.trans support, live, fun off => ?_⟩
      rw [mobility] at support
      exact absurd (support.trans off) (by simp)
  | false =>
      refine ⟨mobility.symm.trans support, live, fun _ => ?_⟩
      rw [IPv6CDS.linked_modifyRouter, linked]

theorem refreshRouter_returns (heap : StdHeap SimTime) (now : SimTime) {p : Ptr} {re : RouterEntry} (still : rt.mipv6Support = false)
    (known : rt.cds.router ra.srcAddress = some (p, re)) (live : ∀ q ∈ rt.rel.entries, rt.routerLive q = true) :
    ∃ rt', refreshRouter heap now rt ra p = .ok rt' := by
  have own : rt.routerLive p = true := by
    have member := List.mem_of_find?_eq_some known
    rw [RoutingTable6.routerLive, IPv6CDS.routerAt, Option.isSome_map, List.find?_isSome]
    exact ⟨(p, re), member, by simp⟩
  unfold refreshRouter RoutingTable6.relAddOrUpdate
  dsimp only
  rw [(RoutingTable6.checkLive_eq_ok (u := ())).mpr]
  · simp only [ok_bind, still, pure_eq_ok, Bool.false_eq_true, if_false]
    exact ⟨_, rfl⟩
  · intro q inside
    refine (IPv6CDS.isSome_routerAt_modifyRouter rt.cds p q _).trans ?_
    rcases List.mem_cons.mp inside with rfl | waiting
    · exact own
    · exact live q waiting

theorem linked_touchDestEntry (cds : IPv6CDS) (addr : Ipv6Addr) :
    (touchDestEntry cds addr).Linked addr ↔ cds.Linked addr := by
  unfold touchDestEntry
  split
  · rfl
  · rename_i absent
    unfold IPv6CDS.Linked
    rw [IPv6CDS.neighbour_setDestEntry, IPv6CDS.neighbour, absent]
    rfl

theorem noNull_reinstateNeighbour (mobility : Bool) :
    NoNull (fun cds' => mobility = true ∨ cds.Linked addr → cds'.Linked addr) (reinstateNeighbour mobility cds addr) := by
  unfold reinstateNeighbour
  have entry : ((cds.findDestEntry addr).getD {}).neighbour = cds.neighbour addr := by
    unfold IPv6CDS.neighbour
    cases cds.findDestEntry addr <;> rfl
  dsimp only
  rw [entry]
  refine Ensures.ite (fun _ => ?_) fun otherwise either => ?_
  · exact (RoutingTable6.noNull_assert _).bind fun _ known _ => IPv6CDS.linked_setDestEntry known rfl
  · rcases either with mobile | linked
    · exact Option.isSome_iff_ne_none.mpr fun empty => otherwise ⟨mobile, by rw [empty]; rfl⟩
    · exact linked

theorem noNull_checkIsRouter (linked : cds.Linked addr) : NoNull (fun _ => True) (checkIsRouter cds addr) := by
  obtain ⟨ngbr, found⟩ := Option.isSome_iff_exists.mp linked
  obtain ⟨p, leads, located⟩ := Option.bind_eq_some_iff.mp found
  unfold checkIsRouter
  rw [leads, deref_some, ok_bind, located, deref_some]
  trivial

theorem checkIsRouter_null (missing : ¬ cds.Linked addr) : checkIsRouter cds addr = .error .nullDeref := by
  unfold checkIsRouter
  cases leads : cds.neighbour addr with
  | none => rfl
  | some p =>
      cases located : cds.deref p with
      | none => rw [deref_some, ok_bind, located]; rfl
      | some ngbr =>
          refine absurd ?_ missing
          unfold IPv6CDS.Linked IPv6CDS.lock
          rw [leads, Option.bind_some, located]
          rfl

/-- The neighbour of a link layer option is only missing without mobility support. -/
theorem noNull_processLinkLayer (present : rt.mipv6Support = true ∨ ra.srcLLAddr = none ∨ rt.cds.Linked ra.srcAddress) :
    NoNull (fun _ => True) (processLinkLayer rt ra) := by
  unfold processLinkLayer
  dsimp only
  refine Ensures.ite (fun _ => True.intro) fun option => ?_
  refine (noNull_reinstateNeighbour rt.mipv6Support).bind fun cds linked => ?_
  refine (noNull_checkIsRouter (linked ?_)).bind fun _ _ => True.intro
  rcases present with mobile | noOption | linked
  · exact Or.inl mobile
  · exact absurd (by rw [noOption]; rfl) option
  · exact Or.inr ((linked_touchDestEntry _ _).mpr linked)

theorem processLinkLayer_null (still : rt.mipv6Support = false) (option : ra.srcLLAddr ≠ none)
    (missing : ¬ rt.cds.Linked ra.srcAddress) : processLinkLayer rt ra = .error .nullDeref := by
  have untouched : reinstateNeighbour false (touchDestEntry rt.cds ra.srcAddress) ra.srcAddress =
      .ok (touchDestEntry rt.cds ra.srcAddress) := by
    simp [reinstateNeighbour]
  have given : ¬ ra.srcLLAddr.isNone = true := by simpa using option
  simp only [processLinkLayer, given, still, untouched, ok_bind,
    checkIsRouter_null fun linked => missing ((linked_touchDestEntry _ _).mp linked)]
  rfl

theorem linked_insertRouterEntry {re : RouterEntry} {p : Ptr} {cds' : IPv6CDS}
    (inserted : cds.insertRouterEntry re false = .ok (p, cds')) : cds'.Linked re.unicastAddr := by
  simp only [IPv6CDS.insertRouterEntry, bind_eq_ok] at inserted
  obtain ⟨middle, removed, done⟩ := inserted
  cases done
  obtain ⟨-, routers⟩ := IPv6CDS.SameLists.removeNeighbourEntry removed
  unfold IPv6CDS.Linked
  rw [IPv6CDS.neighbour_setDestEntry]
  have located : (middle.routers.find? (·.1 = cds.next)).isSome = true := by
    rw [routers, List.find?_isSome]
    exact ⟨(cds.next, re), by simp [IPv6CDS.pushRouterEntry], by simp⟩
  change (middle.deref cds.next).isSome = true
  simp [IPv6CDS.deref, located]

theorem noNull_insertRouterEntry {re : RouterEntry} :
    NoNull (fun r => r.2.mipv6Support = rt.mipv6Support ∧ r.2.cds.Linked re.unicastAddr)
      (rt.insertRouterEntry heap now re false) := by
  unfold RoutingTable6.insertRouterEntry
  have entered : NoNull (fun _ => True) (rt.cds.insertRouterEntry re false) :=
    RoutingTable6.noNull_removeNeighbourEntry.bind fun _ _ => True.intro
  have inserted : NoNull (fun r => rt.cds.insertRouterEntry re false = .ok r) (rt.cds.insertRouterEntry re false) :=
    Ensures.returned fun _ failed => entered.of_error failed
  refine inserted.bind fun r done => ?_
  have linked := linked_insertRouterEntry done
  refine Ensures.ite (fun _ => ?_) fun _ => ⟨rfl, linked⟩
  refine RoutingTable6.noNull_relAddOrUpdate.bind fun rt' updated => ⟨updated.support, ?_⟩
  rw [updated.cds]
  exact linked

/-- The neighbour of the source is missing when the link layer option is looked at: there is no mobility support to
put it back, and neither is the router inserted by this advertisement nor does the function return before. -/
structure NeighbourMissing (rt : RoutingTable6) (ra : RtrAd) : Prop where
  accepted : ra.inputPort < rt.numInterfaceGates
  support : rt.mipv6Support = false
  option : ra.srcLLAddr ≠ none
  missing : ¬ rt.cds.Linked ra.srcAddress
  lifetime : ra.routerLifetime = 0 ∧ rt.cds.router ra.srcAddress = none ∨
    ra.routerLifetime ≠ 0 ∧ (rt.cds.router ra.srcAddress).isSome = true ∧ ∀ p ∈ rt.rel.entries, rt.routerLive p = true

/-- Where it is not missing at the start, it is there when the option is looked at or the function has returned. -/
theorem noNull_processRouter (found : ¬ NeighbourMissing rt ra) (accepted : ra.inputPort < rt.numInterfaceGates) :
    NoNull (fun r => r.2 = true → r.1.mipv6Support = true ∨ ra.srcLLAddr = none ∨ r.1.cds.Linked ra.srcAddress)
      (processRouter heap now rt ra) := by
  have otherwise (lifetime : ra.routerLifetime = 0 ∧ rt.cds.router ra.srcAddress = none ∨
      ra.routerLifetime ≠ 0 ∧ (rt.cds.router ra.srcAddress).isSome = true ∧
        ∀ p ∈ rt.rel.entries, rt.routerLive p = true) :
      rt.mipv6Support = true ∨ ra.srcLLAddr = none ∨ rt.cds.Linked ra.srcAddress := by
    by_contra outside
    simp only [not_or, Bool.not_eq_true] at outside
    exact found ⟨accepted, outside.1, outside.2.1, outside.2.2, lifetime⟩
  unfold processRouter
  split
  · rename_i unknown
    refine Ensures.ite (fun lives => ?_) fun ended _ => ?_
    · refine noNull_insertRouterEntry.bind fun r ⟨_, linked⟩ _ => Or.inr (Or.inr ?_)
      rw [IPv6CDS.linked_modifyRouter]
      exact linked
    · exact otherwise (Or.inl ⟨not_not.mp ended, unknown⟩)
  · rename_i p re known
    refine Ensures.ite (fun lives => ?_) fun ended continues => nomatch continues
    refine (noNull_refreshRouter known).bind fun rt' ⟨support, live, linked⟩ _ => ?_
    rcases otherwise (Or.inr ⟨lives, by rw [known]; rfl, live⟩) with mobile | noOption | led
    · exact Or.inl (support.trans mobile)
    · exact Or.inr (Or.inl noOption)
    · cases mobility : rt.mipv6Support with
      | true => exact Or.inl (support.trans mobility)
      | false => exact Or.inr (Or.inr ((linked mobility).mpr led))

theorem processRouter_missing (heap : StdHeap SimTime) (now : SimTime) (missing : NeighbourMissing rt ra) :
    ∃ rt', processRouter heap now rt ra = .ok (rt', true) ∧ rt'.mipv6Support = false ∧ ¬ rt'.cds.Linked ra.srcAddress := by
  unfold processRouter
  rcases missing.lifetime with ⟨ended, unknown⟩ | ⟨lives, known, live⟩
  · rw [unknown]
    exact ⟨rt, by simp [ended], missing.support, missing.missing⟩
  · obtain ⟨⟨p, re⟩, known⟩ := Option.isSome_iff_exists.mp known
    obtain ⟨rt', refreshed⟩ := refreshRouter_returns heap now missing.support known live
    have kept := (noNull_refreshRouter known).of_ok refreshed
    refine ⟨rt', ?_, kept.1.trans missing.support, fun linked => missing.missing ((kept.2.2 missing.support).mp linked)⟩
    rw [known]
    dsimp only
    rw [if_pos lives, refreshed]
    rfl

theorem processRtrAd_null (missing : NeighbourMissing rt ra) : processRtrAd heap now rt ra = .error .nullDeref := by
  obtain ⟨rt', done, support, broken⟩ := processRouter_missing heap now missing
  rw [processRtrAd, assert_pos missing.accepted, ok_bind, done, ok_bind]
  dsimp only
  rw [if_pos rfl, processLinkLayer_null support missing.option broken]
  rfl

theorem neighbour_never_null (heap : StdHeap SimTime) (now : SimTime) (rt : RoutingTable6) (ra : RtrAd) :
    processRtrAd heap now rt ra ≠ .error .nullDeref ↔ ¬ NeighbourMissing rt ra := by
  constructor
  · exact fun safe missing => safe (processRtrAd_null missing)
  · intro found
    have noNull : NoNull (fun _ => True) (processRtrAd heap now rt ra) := by
      refine (RoutingTable6.noNull_assert _).bind fun _ accepted => ?_
      refine (noNull_processRouter found accepted).bind fun r present => ?_
      refine Ensures.ite (fun continues => ?_) fun _ => True.intro
      refine (noNull_processLinkLayer (present continues)).bind fun rt' _ => noNull_processPrefixes _ _ _
    exact fun failed => noNull.of_error failed rfl

/-- The first advertisement a host without mobility support receives, from a router that is not to be a default one -/
theorem neighbour_null : ¬ ∀ (heap : StdHeap SimTime) (now : SimTime) (rt : RoutingTable6) (ra : RtrAd),
    processRtrAd heap now rt ra ≠ .error .nullDeref := by
  intro claimed
  let ra : RtrAd := ⟨⟨0xFE800000, 0, 0, 1⟩, 0, 0, some "0:0:0:0:0:1", []⟩
  have missing : NeighbourMissing (RoutingTable6.create false 1) ra := by
    refine ⟨by decide, rfl, by simp [ra], ?_, Or.inl ⟨rfl, rfl⟩⟩
    simp [IPv6CDS.Linked, IPv6CDS.neighbour, IPv6CDS.findDestEntry, RoutingTable6.create, IPv6CDS.empty, IPv6CDS.lock]
  exact claimed StdHeap.sorted 0 _ ra (processRtrAd_null missing)

end NDStateHost

end IPv6Suite
