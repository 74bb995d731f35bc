import IPv6Suite.HMIPv6NDStateHost
import IPv6Suite.RegistrationAsserts
import IPv6Suite.Lib.Ensures

namespace IPv6Suite

open Lib

/-- A fault other than a failed assertion about the MAPs -/
def HostFault.Unrelated : HostFault → Prop
  | map _ => False
  | other _ => True

/-- The assertions about the MAPs hold, and `post` of what is returned. -/
abbrev Spares {α : Type} (post : α → Prop) (r : HostExec α) : Prop := Ensures HostFault.Unrelated post r

namespace Spares

variable {α : Type} {post : α → Prop}

variable {r : Exec α}

theorem lift (returns : ∀ value, r = .ok value → post value) : Spares post (HostExec.lift r) := by
  cases r with
  | ok value => exact returns value rfl
  | error fault => exact trivial

theorem lift_any : Spares (fun _ => True) (HostExec.lift r) := lift fun _ _ => trivial

theorem assert {assertion : MapAssertion} {p : Prop} [Decidable p] (holds : p) :
    Spares (fun _ => True) (HostExec.assert assertion p) := by
  unfold HostExec.assert
  rw [if_pos holds]
  exact trivial

theorem ne_map {r : HostExec α} (spares : Spares post r) (assertion : MapAssertion) :
    r ≠ .error (.map assertion) := spares.of_error

end Spares

variable {lifetime : Nat}

theorem MobileNode.sendBUs_rewrites {mn mn' : MobileNode} {coa hoa addr : Ipv6Addr}
    (updates : mn.sendBUs coa hoa lifetime addr >>= MobileNode.finish = .ok mn') : mn.Rewrites mn' := by
  obtain ⟨⟨r, middle⟩, sends, rest⟩ := bind_eq_ok.mp updates
  have first : mn.Rewrites middle := by
    rcases sendBUs_cases sends with ⟨-, rfl⟩ | inits | ⟨sent, -, registers⟩ | ⟨-, -, rfl⟩
    · exact ⟨_, _, rfl⟩
    · exact sendInits_rewrites inits
    · exact sendBU_rewrites registers
    · exact ⟨_, _, rfl⟩
  obtain ⟨bul, tmrs, rfl⟩ := first
  obtain ⟨_, _, rfl⟩ := finish_rewrites rest
  exact ⟨_, _, rfl⟩

variable {e : HMIPv6MAPEntry}

theorem HMIPv6MAPEntry.ofOption_mapAddr {src : HMIPv6ICMPv6NDOptMAP}
    (converts : HMIPv6MAPEntry.ofOption src = .ok e) : e.mapAddr = src.map_addr := by
  obtain ⟨first, distance, rest⟩ := bind_eq_ok.mp converts
  obtain ⟨second, preference, rest⟩ := bind_eq_ok.mp rest
  cases rest
  obtain ⟨_, -, rest⟩ := bind_eq_ok.mp distance
  cases rest
  obtain ⟨_, -, rest⟩ := bind_eq_ok.mp preference
  cases rest
  rfl

theorem selectMAP_mem {maps stored : List HMIPv6ICMPv6NDOptMAP} {bestMap : HMIPv6MAPEntry}
    (selects : selectMAP maps = .ok (bestMap, stored)) :
    bestMap.mapAddr = .unspecified ∨ bestMap.mapAddr ∈ stored.map (·.map_addr) := by
  obtain ⟨invalid, -, rest⟩ := bind_eq_ok.mp selects
  dsimp only at rest
  split at rest
  · cases rest
    exact Or.inl rfl
  · obtain ⟨⟨best, others⟩, -, rest⟩ := bind_eq_ok.mp rest
    obtain ⟨e, converts, rest⟩ := bind_eq_ok.mp rest
    cases rest
    rw [HMIPv6MAPEntry.ofOption_mapAddr converts]
    exact Or.inr List.mem_cons_self

namespace HMIPv6Tables

variable {t t' : HMIPv6Tables}

theorem sendBUToAll_eq {coa : Ipv6Addr} (sends : t.sendBUToAll coa lifetime = .ok t') :
    ∃ mn, t' = { t with mn } ∧ t.mn.Rewrites mn := by
  obtain ⟨⟨first, addrs⟩, begins, rest⟩ := bind_eq_ok.mp sends
  obtain ⟨mn, updates, rest⟩ := bind_eq_ok.mp rest
  cases rest
  have start : t.mn.Rewrites first := by
    rcases MobileNode.sendBUToAll_cases begins with rfl | ⟨ha, sent, registers⟩
    · exact ⟨_, _, rfl⟩
    · exact MobileNode.sendBU_rewrites registers
  refine ⟨mn, rfl, (Runs.of_run updates).invariant t.mn.Rewrites ?_ start⟩
  rintro _ addr after ⟨bul, tmrs, rfl⟩ - updates
  obtain ⟨_, _, rfl⟩ := MobileNode.sendBUs_rewrites updates
  exact ⟨_, _, rfl⟩

theorem formCareOfAddress_removeAddresses (addrs : List Ipv6Addr) (re : MIPv6RouterEntry) :
    (t.removeAddresses addrs).formCareOfAddress re = t.formCareOfAddress re := by
  unfold formCareOfAddress interfaceByPortNo removeAddresses
  rw [List.getElem?_map]
  cases t.interfaces[re.ifIndex]? with
  | none => rfl
  | some ie => rfl

end HMIPv6Tables

namespace HMIPv6CDSMobileNode

variable {cds : HMIPv6CDSMobileNode} {bul : BindingUpdateList} {addr : Ipv6Addr}

/-- Each MAP is stored under its address. -/
def Keyed (maps : StdMap Ipv6Addr HMIPv6MAPEntry Ipv6Addr.lt) : Prop :=
  ∀ (addr : Ipv6Addr) e, maps[addr]? = some e → e.mapAddr = addr

theorem Keyed.insert {maps : StdMap Ipv6Addr HMIPv6MAPEntry Ipv6Addr.lt} (keyed : Keyed maps)
    (same : e.mapAddr = addr) : Keyed (maps.insert addr e) := by
  intro other stored found
  by_cases apart : addr = other
  · subst apart
    rw [StdMap.getElem?_insert_self] at found
    cases found
    exact same
  · rw [StdMap.getElem?_insert_ne apart] at found
    exact keyed _ _ found

theorem isMAPValid_iff : cds.isMAPValid = true ↔ cds.mapAddr ≠ .unspecified ∧ cds.mapAddr ∈ cds.maps :=
  decide_eq_true_iff

theorem currentMap_spares (listed : cds.mapAddr ∈ cds.maps) :
    Spares (fun e => cds.maps[cds.mapAddr]? = some e) cds.currentMap := by
  obtain ⟨e, found⟩ := StdMap.mem_iff_exists.mp listed
  unfold currentMap
  rw [found]
  rfl

theorem setCurrentMap_eq (listed : addr ∈ cds.maps) : cds.setCurrentMap addr = .ok { cds with mapAddr := addr } := by
  unfold setCurrentMap HostExec.assert
  rw [if_pos listed]
  rfl

theorem mapBinding_spares : Spares (fun bule => bule.isSome → cds.isMAPValid = true) (cds.mapBinding bul) := by
  unfold mapBinding
  refine Ensures.ite (fun valid => ?_) fun _ => nofun
  refine (currentMap_spares (isMAPValid_iff.mp valid).2).bind fun _ _ _ => valid

theorem localCareOfAddr_spares : Spares (fun _ => True) (cds.localCareOfAddr bul) :=
  mapBinding_spares.bind fun _ _ => trivial

theorem remoteCareOfAddr_spares :
    Spares (fun rcoa => rcoa ≠ .unspecified → cds.isMAPValid = true) (cds.remoteCareOfAddr bul) := by
  refine mapBinding_spares.bind fun bule valid => ?_
  cases bule with
  | none => exact fun known => absurd rfl known
  | some bule => exact fun _ => valid rfl

end HMIPv6CDSMobileNode

namespace HMIPv6NDStateHost

variable {h after : HMIPv6NDStateHost} {lcoa addr : Ipv6Addr} {arg : ArgMapHandover}

theorem waitingHandover_eq_some :
    h.waitingHandover lcoa = some arg ↔ h.addressCallbacks[lcoa]? = some (.mapHandover arg) := by
  unfold waitingHandover
  cases h.addressCallbacks[lcoa]? with
  | none => simp
  | some cb => cases cb <;> simp

/-- The MAPs remain, and no hand-over waits that did not before. -/
structure Keeps (h after : HMIPv6NDStateHost) : Prop where
  maps : after.cds.maps = h.cds.maps
  waiting : ∀ (lcoa : Ipv6Addr) (arg : ArgMapHandover), after.addressCallbacks[lcoa]? = some (.mapHandover arg) →
    h.addressCallbacks[lcoa]? = some (.mapHandover arg)

theorem Keeps.of_callbacks (maps : after.cds.maps = h.cds.maps)
    (callbacks : after.addressCallbacks = h.addressCallbacks) : h.Keeps after :=
  ⟨maps, fun _ _ waits => callbacks ▸ waits⟩

theorem Keeps.refl (h : HMIPv6NDStateHost) : h.Keeps h := .of_callbacks rfl rfl

theorem Keeps.trans {middle : HMIPv6NDStateHost} (first : h.Keeps middle) (second : middle.Keeps after) :
    h.Keeps after :=
  ⟨second.maps.trans first.maps, fun lcoa arg waits => first.waiting lcoa arg (second.waiting lcoa arg waits)⟩

/-- The MAP of each hand-over that waits is in the list. -/
structure Waiting (h : HMIPv6NDStateHost) : Prop where
  keyed : HMIPv6CDSMobileNode.Keyed h.cds.maps
  listed : ∀ (lcoa : Ipv6Addr) (arg : ArgMapHandover), h.addressCallbacks[lcoa]? = some (.mapHandover arg) →
    arg.bestMap.mapAddr ∈ h.cds.maps

theorem Waiting.keeps (waiting : h.Waiting) (keeps : h.Keeps after) : after.Waiting := by
  constructor
  · rw [keeps.maps]
    exact waiting.keyed
  · intro lcoa arg waits
    rw [keeps.maps]
    exact waiting.listed lcoa arg (keeps.waiting lcoa arg waits)

variable {cb : AddressCallback}

theorem addCallbackToAddress_keeps (kind : ∀ arg, cb ≠ .mapHandover arg)
    (adds : h.addCallbackToAddress addr cb = .ok after) : h.Keeps after := by
  obtain ⟨_, -, rest⟩ := bind_eq_ok.mp adds
  cases rest
  refine ⟨rfl, fun lcoa arg waits => ?_⟩
  by_cases same : addr = lcoa
  · subst same
    rw [StdMap.getElem?_insert_self] at waits
    exact absurd (Option.some.inj waits) (kind arg)
  · rwa [StdMap.getElem?_insert_ne same] at waits

theorem getElem?_foldl_erase (addrs : List Ipv6Addr) (callbacks : StdMap Ipv6Addr AddressCallback Ipv6Addr.lt)
    (cb : AddressCallback) : (addrs.foldl (fun callbacks addr => callbacks.erase addr) callbacks)[lcoa]? = some cb ↔
      lcoa ∉ addrs ∧ callbacks[lcoa]? = some cb := by
  induction addrs generalizing callbacks with
  | nil => simp
  | cons addr rest ih =>
      rw [List.foldl_cons, ih, List.mem_cons, not_or]
      by_cases same : addr = lcoa
      · subst same
        rw [StdMap.getElem?_erase_self]
        simp
      · rw [StdMap.getElem?_erase_ne same]
        simp [Ne.symm same]

theorem removeCallbacks_keeps (addrs : List Ipv6Addr) : h.Keeps (h.removeCallbacks addrs) :=
  ⟨rfl, fun _ _ waits => ((getElem?_foldl_erase addrs _ _).mp waits).2⟩

theorem updateMap_spares {rcoa : Ipv6Addr} (valid : h.cds.isMAPValid = true) :
    Spares h.Keeps (h.updateMap lcoa rcoa) := by
  refine Spares.lift_any.bind fun _ _ => ?_
  refine HMIPv6CDSMobileNode.localCareOfAddr_spares.bind fun oldcoa _ => ?_
  refine Spares.lift_any.bind fun _ _ => ?_
  refine Ensures.ite (fun _ => .refl h) fun _ => ?_
  refine (HMIPv6CDSMobileNode.currentMap_spares (HMIPv6CDSMobileNode.isMAPValid_iff.mp valid).2).bind fun map _ => ?_
  exact Spares.lift_any.bind fun tables _ => .of_callbacks rfl rfl

theorem arhandover_spares : Spares (fun r => h.Keeps r.2) (h.arhandover lcoa) := by
  refine HMIPv6CDSMobileNode.remoteCareOfAddr_spares.bind fun rcoa valid => ?_
  refine Ensures.ite (fun _ => .refl h) fun known => ?_
  refine Spares.lift_any.bind fun assigned _ => ?_
  refine Ensures.bind (?_ : Spares h.Keeps _) fun after keeps => keeps
  refine Ensures.ite (fun _ => updateMap_spares (valid known)) fun _ => ?_
  exact Spares.lift fun after adds => addCallbackToAddress_keeps (by simp) adds

theorem sendBU_spares {ncoa : Ipv6Addr} : Spares h.Keeps (h.sendBU ncoa) := by
  refine Spares.lift_any.bind fun _ _ => ?_
  refine Spares.lift_any.bind fun ocoa _ => ?_
  refine Spares.lift_any.bind fun _ _ => ?_
  refine Ensures.ite (fun _ => .refl h) fun _ => ?_
  refine arhandover_spares.bind fun r keeps => ?_
  refine Ensures.ite (fun _ => keeps) fun _ => ?_
  exact Spares.lift_any.bind fun tables _ => keeps.trans (.of_callbacks rfl rfl)

variable {oldMap : Ipv6Addr}

theorem forwardFrom_keeps (forwards : h.forwardFrom oldMap lcoa = .ok after) : h.Keeps after := by
  unfold forwardFrom at forwards
  split at forwards
  · cases forwards
    exact .refl _
  · split at forwards
    · cases forwards
      exact .refl _
    · split at forwards
      · obtain ⟨tables, -, rest⟩ := bind_eq_ok.mp forwards
        cases rest
        exact .of_callbacks rfl rfl
      · cases forwards
        exact .refl _

theorem mapHandover_spares (keyed : HMIPv6CDSMobileNode.Keyed h.cds.maps) (listed : arg.bestMap.mapAddr ∈ h.cds.maps) :
    Spares h.Keeps (h.mapHandover arg) := by
  unfold mapHandover
  dsimp only
  rw [HMIPv6CDSMobileNode.setCurrentMap_eq listed]
  refine Ensures.ok_bind ?_
  refine (HMIPv6CDSMobileNode.currentMap_spares listed).bind fun map found => ?_
  refine (Spares.assert (keyed _ _ found)).bind fun _ _ => ?_
  refine Spares.lift_any.bind fun tables _ => ?_
  refine Spares.lift fun after forwards => ?_
  have moves : h.Keeps { h with cds := { h.cds with mapAddr := arg.bestMap.mapAddr }, tables } :=
    .of_callbacks rfl rfl
  exact moves.trans (forwardFrom_keeps forwards)

theorem callFunc_spares (waiting : h.Waiting) (waits : h.addressCallbacks[addr]? = some cb) :
    Spares h.Keeps (h.callFunc cb) := by
  cases cb with
  | mapHandover arg => exact mapHandover_spares waiting.keyed (waiting.listed _ _ waits)
  | arhandover lcoa => exact Ensures.map arhandover_spares
  | sendBU ncoa => exact sendBU_spares

theorem invokeCallback_spares (waiting : h.Waiting) : Spares h.Keeps (h.invokeCallback addr) := by
  unfold invokeCallback
  cases waits : h.addressCallbacks[addr]? with
  | none => exact .refl h
  | some cb =>
      refine (callFunc_spares waiting waits).bind fun after keeps => ?_
      refine keeps.trans ⟨rfl, fun lcoa arg remains => ?_⟩
      by_cases same : addr = lcoa
      · subst same
        rw [StdMap.getElem?_erase_self] at remains
        cases remains
      · rwa [StdMap.getElem?_erase_ne same] at remains

theorem dupAddrDetSuccess_spares {ifIndex : Nat} (waiting : h.Waiting) :
    Spares h.Keeps (h.dupAddrDetSuccess ifIndex addr) := by
  refine Spares.lift_any.bind fun tables _ => ?_
  have keeps : h.Keeps { h with tables } := .of_callbacks rfl rfl
  exact (invokeCallback_spares (waiting.keeps keeps)).imp fun _ => keeps.trans

theorem returnHome_keeps (returns : h.returnHome = .ok after) :
    h.Keeps after ∧ after.tables.mn.homeAddr = h.tables.mn.homeAddr ∧
      after.tables.currentRouter = h.tables.currentRouter := by
  obtain ⟨tables, sends, rest⟩ := bind_eq_ok.mp returns
  cases rest
  obtain ⟨mn, rfl, bul, tmrs, rfl⟩ := HMIPv6Tables.sendBUToAll_eq sends
  exact ⟨.of_callbacks rfl rfl, rfl, rfl⟩

/-- Whether a hand-over that waits for an address still does so when the node has a new router -/
def Stays (h : HMIPv6NDStateHost) (relinquished : List Ipv6Addr) (lcoa : Ipv6Addr) : Prop :=
  h.tables.currentRouter = none ∨ lcoa ∉ relinquished ∨ lcoa = h.tables.mn.homeAddr
deriving Decidable

variable {newRtr : MIPv6RouterEntry} {relinquished : List Ipv6Addr}

theorem relinquishRouter_waiting
    (waits : (h.relinquishRouter newRtr relinquished).addressCallbacks[lcoa]? = some (.mapHandover arg)) :
    h.addressCallbacks[lcoa]? = some (.mapHandover arg) ∧ h.Stays relinquished lcoa := by
  unfold relinquishRouter at waits
  split at waits
  · rename_i unset
    exact ⟨waits, Or.inl (Option.isNone_iff_eq_none.mp unset)⟩
  · obtain ⟨kept, waits⟩ := (getElem?_foldl_erase _ _ _).mp waits
    refine ⟨waits, Or.inr ?_⟩
    by_contra removed
    rw [not_or, not_not] at removed
    exact kept (List.mem_filter.mpr ⟨removed.1, decide_eq_true removed.2⟩)

theorem relinquishRouter_cds (newRtr : MIPv6RouterEntry) (relinquished : List Ipv6Addr) :
    (h.relinquishRouter newRtr relinquished).cds = h.cds := by
  unfold relinquishRouter
  split <;> rfl

theorem relinquishRouter_formCareOfAddress (newRtr re : MIPv6RouterEntry) (relinquished : List Ipv6Addr) :
    (h.relinquishRouter newRtr relinquished).tables.formCareOfAddress re = h.tables.formCareOfAddress re := by
  unfold relinquishRouter
  split
  · rfl
  · exact HMIPv6Tables.formCareOfAddress_removeAddresses (t := h.tables) _ re

theorem storeMaps_spares {cds : HMIPv6CDSMobileNode} (maps : List HMIPv6ICMPv6NDOptMAP) (curMapFound : Bool)
    (mapOptions : StdMap Ipv6Addr HMIPv6MAPEntry Ipv6Addr.lt)
    (listed : cds.mapAddr ∈ maps.map (·.map_addr) → cds.mapAddr ∈ cds.maps)
    (keyed : HMIPv6CDSMobileNode.Keyed mapOptions) :
    Spares (fun r => (r.1 = true ↔ curMapFound = true ∨ cds.mapAddr ∈ maps.map (·.map_addr)) ∧
        HMIPv6CDSMobileNode.Keyed r.2 ∧ ∀ addr, addr ∈ r.2 ↔ addr ∈ mapOptions ∨ addr ∈ maps.map (·.map_addr))
      (storeMaps cds maps curMapFound mapOptions) := by
  induction maps generalizing curMapFound mapOptions with
  | nil => simp [storeMaps, keyed]
  | cons mapOpt rest ih =>
      rw [List.map_cons, List.mem_cons] at listed
      have compares : Spares (fun _ => True) (compareDistance cds mapOpt) := by
        refine Ensures.ite (fun same => ?_) fun _ => trivial
        exact (HMIPv6CDSMobileNode.currentMap_spares (listed (Or.inl same.symm))).bind fun _ _ => trivial
      refine compares.bind fun _ _ => ?_
      refine Ensures.bind (Spares.lift fun e converts => HMIPv6MAPEntry.ofOption_mapAddr converts) fun e same => ?_
      refine (ih _ _ (fun later => listed (Or.inr later)) (keyed.insert same)).imp ?_
      rintro ⟨found, stored⟩ ⟨finds, keyed, has⟩
      refine ⟨?_, keyed, fun addr => ?_⟩
      · rw [finds, Bool.or_eq_true, decide_eq_true_iff, List.map_cons, List.mem_cons, eq_comm (a := cds.mapAddr)]
        exact or_assoc
      · rw [has, StdMap.mem_insert, List.map_cons, List.mem_cons, eq_comm (a := addr)]
        tauto

theorem Waiting.add (waiting : h.Waiting) (listed : arg.bestMap.mapAddr ∈ h.cds.maps)
    (adds : h.addCallbackToAddress addr (.mapHandover arg) = .ok after) : after.Waiting := by
  obtain ⟨_, -, rest⟩ := bind_eq_ok.mp adds
  cases rest
  refine ⟨waiting.keyed, fun lcoa other waits => ?_⟩
  by_cases same : addr = lcoa
  · subst same
    rw [StdMap.getElem?_insert_self] at waits
    cases waits
    exact listed
  · rw [StdMap.getElem?_insert_ne same] at waits
    exact waiting.listed _ _ waits

theorem Waiting.of_relinquished (keyed : HMIPv6CDSMobileNode.Keyed h.cds.maps)
    (listed : ∀ (lcoa : Ipv6Addr) (arg : ArgMapHandover), h.addressCallbacks[lcoa]? = some (.mapHandover arg) →
      h.Stays relinquished lcoa → arg.bestMap.mapAddr ∈ h.cds.maps) :
    (h.relinquishRouter newRtr relinquished).Waiting := by
  constructor
  · rw [relinquishRouter_cds]
    exact keyed
  · intro lcoa arg waits
    rw [relinquishRouter_cds]
    obtain ⟨waits, stays⟩ := relinquishRouter_waiting waits
    exact listed lcoa arg waits stays

section Advertisement

variable {bestMap : HMIPv6MAPEntry} {accessRouter : MIPv6RouterEntry} {inputPort : Int} {ra : MapAdvertisement}

theorem preprocessMapHandover_spares (waiting : h.Waiting)
    (listed : bestMap.mapAddr = .unspecified ∨ bestMap.mapAddr ∈ h.cds.maps)
    (same : ∀ (lcoa : Ipv6Addr) (arg : ArgMapHandover), h.tables.formCareOfAddress accessRouter = .ok lcoa →
      h.addressCallbacks[lcoa]? = some (.mapHandover arg) → bestMap = arg.bestMap) :
    Spares Waiting (h.preprocessMapHandover bestMap accessRouter inputPort) := by
  unfold preprocessMapHandover
  refine Spares.lift_any.bind fun ie _ => ?_
  refine Ensures.bind (Spares.lift fun lcoa forms => forms) fun lcoa forms => ?_
  cases waits : h.waitingHandover lcoa with
  | some potential =>
      exact (Spares.assert (same _ _ forms (waitingHandover_eq_some.mp waits))).bind fun _ _ => waiting
  | none =>
      have known : ∀ rcoa, h.tables.formRemoteCOA bestMap inputPort = .ok rcoa → bestMap.mapAddr ∈ h.cds.maps := by
        intro rcoa forms
        obtain ⟨_, specified, -⟩ := bind_eq_ok.mp forms
        exact listed.resolve_left ((assert_eq_ok _ _).mp specified)
      refine (Spares.lift known).bind fun rcoa listed => ?_
      refine Spares.lift_any.bind fun tables _ => ?_
      refine Spares.lift_any.bind fun _ _ => ?_
      refine Spares.lift_any.bind fun assigned _ => ?_
      have assigns : Waiting { h with tables } := waiting.keeps (.of_callbacks rfl rfl)
      refine Ensures.ite (fun _ => ?_) fun _ => Spares.lift fun after => assigns.add listed
      exact (mapHandover_spares assigns.keyed listed).imp fun _ => assigns.keeps

variable {curMapFound : Bool}

theorem chooseHandover_spares (waiting : h.Waiting)
    (listed : bestMap.mapAddr = .unspecified ∨ bestMap.mapAddr ∈ h.cds.maps)
    (same : h.tables.mn.awayFromHome = true →
      curMapFound = false ∨ bestMap.mapAddr ≠ oldMap ∨ h.cds.isMAPValid = false →
      ∀ (lcoa : Ipv6Addr) (arg : ArgMapHandover), h.tables.formCareOfAddress accessRouter = .ok lcoa →
        h.addressCallbacks[lcoa]? = some (.mapHandover arg) → bestMap = arg.bestMap) :
    Spares Waiting (h.chooseHandover oldMap bestMap curMapFound accessRouter inputPort) := by
  refine Ensures.ite (fun _ => waiting) fun away => ?_
  refine Ensures.ite (fun chosen => ?_) fun _ => ?_
  · exact preprocessMapHandover_spares waiting listed (same (not_not.mp away) chosen)
  · refine Spares.lift_any.bind fun lcoa _ => ?_
    refine HMIPv6CDSMobileNode.localCareOfAddr_spares.bind fun oldcoa _ => ?_
    exact Ensures.ite (fun _ => waiting) fun _ => Ensures.map (arhandover_spares.imp fun _ => waiting.keeps)

def HandsOver (h : HMIPv6NDStateHost) (bestMap : HMIPv6MAPEntry) (accessRouter : MIPv6RouterEntry) : Prop :=
  (if h.tables.currentRouter = some accessRouter.linkLocal then h.tables.mn.awayFromHome = true
    else h.backHome accessRouter = false) ∧
  (bestMap.mapAddr ≠ h.cds.mapAddr ∨ h.cds.mapAddr = .unspecified)
deriving Decidable

/-- The hand-overs that wait, with their addresses -/
def pending (h : HMIPv6NDStateHost) : List (Ipv6Addr × ArgMapHandover) :=
  h.addressCallbacks.toList.filterMap fun entry =>
    match entry.2 with
    | .mapHandover arg => some (entry.1, arg)
    | _ => none

theorem mem_pending (waits : h.addressCallbacks[lcoa]? = some (.mapHandover arg)) : (lcoa, arg) ∈ h.pending :=
  List.mem_filterMap.mpr ⟨(lcoa, .mapHandover arg), Std.TreeMap.mem_toList_iff_getElem?_eq_some.mpr waits, rfl⟩

/-- The advertisement offers the current MAP only if it is still in the list, and the MAP of each hand-over that goes on
waiting. If it makes the node hand over with the address that one waits for, then to the same MAP. -/
def Agrees (h : HMIPv6NDStateHost) (ra : MapAdvertisement) (bestMap : HMIPv6MAPEntry)
    (stored : List HMIPv6ICMPv6NDOptMAP) : Prop :=
  (h.cds.mapAddr ∈ stored.map (·.map_addr) → h.cds.mapAddr ∈ h.cds.maps) ∧
    ∀ accessRouter ∈ h.tables.findRouter ra.srcAddress, ∀ p ∈ h.pending,
      h.tables.currentRouter = some accessRouter.linkLocal ∨ h.Stays ra.relinquished p.1 →
      p.2.bestMap.mapAddr ∈ stored.map (·.map_addr) ∧
        (h.HandsOver bestMap accessRouter → h.tables.formCareOfAddress accessRouter = .ok p.1 →
          bestMap = p.2.bestMap)
deriving Decidable

/-- An advertisement with MAPs agrees with the hand-overs that wait. -/
def Calm (h : HMIPv6NDStateHost) : Event → Prop
  | .rtrAd ra => ra.mapOptions ≠ [] ∧ h.tables.mn.primaryHA ≠ none →
      ∀ selected ∈ (selectMAP ra.mapOptions).toOption, h.Agrees ra selected.1 selected.2
  | _ => True

/-- The node hands over to the current MAP only if it is invalid. -/
theorem chosen_cases (cds : HMIPv6CDSMobileNode)
    (listed : bestMap.mapAddr = .unspecified ∨ bestMap.mapAddr ∈ cds.maps)
    (found : cds.mapAddr ∈ cds.maps → curMapFound = true)
    (chosen : curMapFound = false ∨ bestMap.mapAddr ≠ cds.mapAddr ∨ cds.isMAPValid = false) :
    bestMap.mapAddr ≠ cds.mapAddr ∨ cds.mapAddr = .unspecified := by
  by_contra same
  rw [not_or, not_not] at same
  rw [same.1] at listed
  have inside := listed.resolve_left same.2
  rcases chosen with missing | other | invalid
  · rw [found inside] at missing
    cases missing
  · exact other same.1
  · rw [HMIPv6CDSMobileNode.isMAPValid_iff.mpr ⟨same.2, inside⟩] at invalid
    cases invalid

instance (h : HMIPv6NDStateHost) : (e : Event) → Decidable (h.Calm e)
  | .rtrAd _ => inferInstanceAs (Decidable (_ → _))
  | .dupAddrDetSuccess .. | .returnHome | .sendBU _ | .deferSendBU _ | .other .. => isTrue trivial

theorem discoverMAP_spares
    (agrees : ∀ selected ∈ (selectMAP ra.mapOptions).toOption, h.Agrees ra selected.1 selected.2) :
    Spares Waiting (h.discoverMAP ra) := by
  unfold discoverMAP
  dsimp only
  refine Ensures.bind (Spares.lift fun selected selects => selects) ?_
  rintro ⟨bestMap, stored⟩ selects
  obtain ⟨current, offers⟩ := agrees (bestMap, stored) (by rw [selects]; rfl)
  refine (storeMaps_spares stored false ∅ current (fun _ _ found => by simp at found)).bind ?_
  rintro ⟨curMapFound, mapEntries⟩ ⟨found, keyed, has⟩
  have has : ∀ addr, addr ∈ mapEntries ↔ addr ∈ stored.map (·.map_addr) := by
    intro addr
    rw [has]
    simp
  refine Ensures.bind (Spares.lift fun accessRouter finds => (deref_eq_ok _ _ _).mp finds) ?_
  intro accessRouter finds
  have agree {lcoa : Ipv6Addr} {arg : ArgMapHandover} (waits : h.addressCallbacks[lcoa]? = some (.mapHandover arg)) :=
    offers accessRouter finds _ (mem_pending waits)
  have listed : bestMap.mapAddr = .unspecified ∨ bestMap.mapAddr ∈ mapEntries :=
    (selectMAP_mem selects).imp_right (has _).mpr
  have current : h.cds.mapAddr ∈ mapEntries → curMapFound = true :=
    fun inside => found.mpr (Or.inr ((has _).mp inside))
  refine Ensures.ite (fun stays => ?_) fun moves => Ensures.ite (fun home => ?_) fun away => ?_
  · have waiting : Waiting { h with cds := { h.cds with maps := mapEntries } } :=
      ⟨keyed, fun lcoa arg waits => (has _).mpr (agree waits (Or.inl stays)).1⟩
    refine chooseHandover_spares waiting listed fun awayFromHome choice lcoa arg forms waits => ?_
    refine (agree waits (Or.inl stays)).2 ⟨?_, chosen_cases { h.cds with maps := mapEntries } listed current choice⟩ forms
    rw [if_pos stays]
    exact awayFromHome
  · refine Ensures.bind (Spares.lift fun after returns => returnHome_keeps returns) ?_
    rintro after ⟨keeps, homeAddr, currentRouter⟩
    refine Waiting.of_relinquished (keeps.maps ▸ keyed) fun lcoa arg waits stays => ?_
    unfold Stays at stays
    rw [homeAddr, currentRouter] at stays
    rw [keeps.maps]
    exact (has _).mpr (agree (keeps.waiting _ _ waits) (Or.inr stays)).1
  · have waiting : Waiting (relinquishRouter { h with cds := { h.cds with maps := mapEntries } } accessRouter
        ra.relinquished) :=
      .of_relinquished keyed fun lcoa arg waits stays => (has _).mpr (agree waits (Or.inr stays)).1
    have same := relinquishRouter_cds (h := { h with cds := { h.cds with maps := mapEntries } }) accessRouter
      ra.relinquished
    have forms := relinquishRouter_formCareOfAddress (h := { h with cds := { h.cds with maps := mapEntries } })
      accessRouter accessRouter ra.relinquished
    refine chooseHandover_spares (waiting.keeps (.of_callbacks rfl rfl)) ?_ ?_
    · rw [setAwayFromHome, same]
      exact listed
    intro _ choice lcoa arg forms' waits
    obtain ⟨waits, stays⟩ := relinquishRouter_waiting waits
    rw [setAwayFromHome, same] at choice
    refine (agree waits (Or.inr stays)).2 ⟨?_, chosen_cases { h.cds with maps := mapEntries } listed current choice⟩ ?_
    · rw [if_neg moves]
      exact eq_false_of_ne_true away
    · exact forms.symm.trans forms'

theorem processRtrAd_spares (waiting : h.Waiting) (calm : h.Calm (.rtrAd ra)) :
    Spares Waiting (h.processRtrAd ra) := by
  refine Ensures.ite (fun _ => ?_) fun maps => ?_
  · have keeps : h.Keeps (if h.cds.isMAPValid ∧ ra.mapOptions = [] then { h with cds := h.cds.setNoCurrentMap }
        else h) := by
      split
      · exact .of_callbacks rfl rfl
      · exact .refl h
    exact waiting.keeps keeps
  · rw [not_or] at maps
    exact discoverMAP_spares (calm maps)

end Advertisement

/-- No assertion about the MAPs fails in a step that is calm, and the MAPs of the hand-overs remain in the list. -/
theorem step_spares {e : Event} (waiting : h.Waiting) (calm : h.Calm e) : Spares Waiting (h.step e) := by
  cases e with
  | rtrAd ra => exact processRtrAd_spares waiting calm
  | dupAddrDetSuccess ifIndex tentativeAddr =>
      exact (dupAddrDetSuccess_spares waiting).imp fun _ => waiting.keeps
  | returnHome => exact Spares.lift fun after returns => waiting.keeps (returnHome_keeps returns).1
  | sendBU ncoa => exact sendBU_spares.imp fun _ => waiting.keeps
  | deferSendBU coa => exact Spares.lift fun after adds => waiting.keeps (addCallbackToAddress_keeps (by simp) adds)
  | other update removed =>
      exact waiting.keeps ((removeCallbacks_keeps removed).trans (.of_callbacks rfl rfl))

theorem start_waiting (tables : HMIPv6Tables) : (start tables).Waiting :=
  ⟨fun addr e found => by simp [start] at found, fun lcoa arg waits => by simp [start] at waits⟩

theorem runs_waiting {tables : HMIPv6Tables} {es : List Event} (runs : Runs next Calm (start tables) es h) :
    h.Waiting := by
  refine runs.invariant Waiting ?_ (start_waiting tables)
  intro before e after waiting calm steps
  have spares : OnReturn Waiting (before.next e) :=
    Ensures.mapError ((step_spares waiting calm).fewer fun _ _ => trivial)
  exact spares.of_ok steps

end HMIPv6NDStateHost

open HMIPv6NDStateHost

/-- In a run whose advertisements with MAPs agree with the hand-overs that wait, no assertion about the MAPs fails. -/
theorem map_assertions {tables : HMIPv6Tables} {es : List Event} {h : HMIPv6NDStateHost} {e : Event}
    (runs : Runs next Calm (start tables) es h) (calm : h.Calm e) (assertion : MapAssertion) :
    h.step e ≠ .error (.map assertion) := (step_spares (runs_waiting runs) calm).ne_map assertion

/-- A mobile node that can be on the links of two routers, away from home -/
def exampleVisitor : HMIPv6Tables where
  mn := MobileNode.create ⟨0x20010000, 0, 0, 1⟩ ⟨0x20010000, 0, 0, 2⟩
  odad := false
  forwardFromPreviousMap := true
  interfaces := [⟨⟨[], []⟩, ⟨0, 1, 64⟩⟩]
  mrl := [⟨⟨0xFE800000, 0, 0, 1⟩, ⟨⟨0x20010000, 1, 0, 2⟩, 64⟩, 0⟩,
    ⟨⟨0xFE800000, 0, 0, 2⟩, ⟨⟨0x20010000, 2, 0, 2⟩, 64⟩, 0⟩]
  currentRouter := none
  minValidLifetime := 100

def exampleOnLink (router : BitVec 32) : Ipv6Addr := ⟨0x20010000, router, 0, 1⟩

def exampleMapAd (router map : BitVec 32) (relinquished : List Ipv6Addr) : Event :=
  .rtrAd ⟨⟨0xFE800000, 0, 0, router⟩, 0, [⟨1, 9, false, 1000, 0, ⟨0x20020000, map, 0, 1⟩⟩], relinquished⟩

theorem map_assertions_moved :
    ∃ h, Runs next Calm (start exampleVisitor) [exampleMapAd 1 1 [], .dupAddrDetSuccess 0 (exampleOnLink 1),
        exampleMapAd 2 2 [exampleOnLink 1]] h ∧
      h.step (.dupAddrDetSuccess 0 (exampleOnLink 2)) ≠ .error (.map .setCurrentMap) := by
  have checked : ((run (fun h e => Exec.assert (Calm h e) >>= fun _ => next h e) (start exampleVisitor)
      [exampleMapAd 1 1 [], .dupAddrDetSuccess 0 (exampleOnLink 1), exampleMapAd 2 2 [exampleOnLink 1]]).map fun h =>
        decide (h.Calm (.dupAddrDetSuccess 0 (exampleOnLink 2)))) = .ok true := by decide +kernel
  obtain ⟨h, runs, calm⟩ := map_eq_ok checked
  have runs := Runs.of_checked runs
  exact ⟨h, runs, map_assertions runs (of_decide_eq_true calm) .setCurrentMap⟩

/-- Back with the first router before the address with the second one is unique, the current MAP is not in the list.
With another MAP from the same router, a better one is found while the first is waited for. And where the address with
the first router is not relinquished, as that of its second prefix is not, its MAP is not in the second one's list. -/
theorem map_assertions_fail :
    (∃ h, Runs next (fun _ _ => True) (start exampleVisitor) [exampleMapAd 1 1 [],
        .dupAddrDetSuccess 0 (exampleOnLink 1), exampleMapAd 2 2 [exampleOnLink 1]] h ∧
      h.step (exampleMapAd 1 1 [exampleOnLink 2]) = .error (.map .currentMap)) ∧
    (∃ h, Runs next (fun _ _ => True) (start exampleVisitor) [exampleMapAd 1 1 []] h ∧
      h.step (exampleMapAd 1 2 []) = .error (.map .betterMap)) ∧
    (∃ h, Runs next (fun _ _ => True) (start exampleVisitor) [exampleMapAd 1 1 [], exampleMapAd 2 2 []] h ∧
      h.step (.dupAddrDetSuccess 0 (exampleOnLink 1)) = .error (.map .setCurrentMap)) := by
  have fails {es : List Event} {e : Event} {fault : HostFault}
      (checked : ((run next (start exampleVisitor) es).map fun h =>
        match h.step e with
        | .ok _ => false
        | .error raised => decide (raised = fault)) = .ok true) :
      ∃ h, Runs next (fun _ _ => True) (start exampleVisitor) es h ∧ h.step e = .error fault := by
    obtain ⟨h, runs, outcome⟩ := map_eq_ok checked
    refine ⟨h, Runs.of_run runs, ?_⟩
    cases steps : h.step e with
    | ok after =>
        rw [steps] at outcome
        cases outcome
    | error raised =>
        rw [steps] at outcome
        rw [of_decide_eq_true outcome]
  exact ⟨fails (by decide +kernel), fails (by decide +kernel), fails (by decide +kernel)⟩

end IPv6Suite
