import IPv6Suite.MapHandover

namespace IPv6Suite

open Lib

abbrev MAPOptions := List HMIPv6ICMPv6NDOptMAP

abbrev MAPEntries := StdMap Ipv6Addr HMIPv6MAPEntry Ipv6Addr.lt

variable {maps stored : MAPOptions} {m other : HMIPv6ICMPv6NDOptMAP} {bestMap : HMIPv6MAPEntry} {addr : Ipv6Addr}

namespace HMIPv6ICMPv6NDOptMAP

/-- An option whose fields fit -/
def Advertised (m : HMIPv6ICMPv6NDOptMAP) : Prop :=
  0 < m.dist ∧ m.dist ≤ 15 ∧ m.pref ≤ 15 ∧ m.map_addr ≠ .unspecified
deriving Decidable

def Valid (m : HMIPv6ICMPv6NDOptMAP) : Prop := m.expires ≠ 0 ∧ m.pref ≠ 0
deriving Decidable

end HMIPv6ICMPv6NDOptMAP

namespace HMIPv6MAPEntry

def preference (e : HMIPv6MAPEntry) : BitVec 32 := (e.options &&& 0xF00) >>> 8

/-- The lifetime and the address do not matter to the other fields. -/
theorem ofOption_eq_map (m : HMIPv6ICMPv6NDOptMAP) :
    ofOption m = (ofOption ⟨m.dist, m.pref, m.r, 0, 0, .unspecified⟩).map
      fun e => ⟨e.options, m.expires, m.map_addr⟩ := by
  unfold ofOption setDistance setPreference Exec.assert
  by_cases dist : m.dist < 1 <<< 4 ∧ 0 < m.dist
  · by_cases pref : m.pref < 1 <<< 4
    · simp only [if_pos dist, if_pos pref]
      rfl
    · simp only [if_pos dist, if_neg pref]
      rfl
  · simp only [if_neg dist]
    rfl

theorem ofOption_bits : ∀ (dist pref : Fin 16) (r : Bool), 0 < dist →
    Ensures (fun _ => False) (fun e => e.distance = BitVec.ofNat 32 dist ∧ e.preference = BitVec.ofNat 32 pref)
      (ofOption ⟨BitVec.ofNat 32 dist, BitVec.ofNat 32 pref, r, 0, 0, .unspecified⟩) := by
  decide +kernel

theorem exists_ofOption (advertised : m.Advertised) :
    ∃ e, ofOption m = .ok e ∧ e.distance = m.dist ∧ e.preference = m.pref ∧ e.expires = m.expires := by
  obtain ⟨far, near, pref, -⟩ := advertised
  rw [BitVec.lt_def] at far
  rw [BitVec.le_def] at near pref
  have bits := ofOption_bits ⟨m.dist.toNat, Nat.lt_succ_of_le near⟩ ⟨m.pref.toNat, Nat.lt_succ_of_le pref⟩ m.r far
  simp only [BitVec.ofNat_toNat, BitVec.setWidth_eq] at bits
  rw [ofOption_eq_map]
  cases converts : ofOption ⟨m.dist, m.pref, m.r, 0, 0, .unspecified⟩ with
  | error fault =>
      rw [converts] at bits
      exact bits.elim
  | ok e =>
      rw [converts] at bits
      exact ⟨_, rfl, bits.1, bits.2, rfl⟩

theorem valid_of_ofOption {e : HMIPv6MAPEntry} (advertised : m.Advertised) (advertised' : other.Advertised)
    (converts : ofOption m = .ok e) (converts' : ofOption other = .ok e) (valid : other.Valid) : m.Valid := by
  obtain ⟨_, same, -, pref, expires⟩ := exists_ofOption advertised
  obtain ⟨_, same', -, pref', expires'⟩ := exists_ofOption advertised'
  cases same.symm.trans converts
  cases same'.symm.trans converts'
  unfold HMIPv6ICMPv6NDOptMAP.Valid
  rw [← pref, ← expires, pref', expires']
  exact valid

end HMIPv6MAPEntry

/-! ### The best MAP -/

/-- One place of `partial_sort`: the further one of two options goes on. -/
theorem furthest_cons {first m : HMIPv6ICMPv6NDOptMAP} (rest : MAPOptions)
    (advertised : first.Advertised) (advertised' : m.Advertised) :
    ∃ next last, [next, last].Perm [first, m] ∧ last.dist ≤ next.dist ∧
      furthest first (m :: rest) = furthest next rest >>= fun r => .ok (r.1, last :: r.2) := by
  obtain ⟨a, converts, distance, -⟩ := HMIPv6MAPEntry.exists_ofOption advertised'
  obtain ⟨b, converts', distance', -⟩ := HMIPv6MAPEntry.exists_ofOption advertised
  rw [furthest, converts, converts']
  by_cases further : a.lt b
  · refine ⟨m, first, .swap .., ?_, by simp only [ok_bind, if_pos further]; rfl⟩
    rw [HMIPv6MAPEntry.lt, distance, distance'] at further
    exact BitVec.le_of_lt further
  · refine ⟨first, m, .refl _, ?_, by simp only [ok_bind, if_neg further]; rfl⟩
    rw [HMIPv6MAPEntry.lt, distance, distance'] at further
    exact BitVec.not_lt.mp further

theorem furthest_perm (first : HMIPv6ICMPv6NDOptMAP) (rest : MAPOptions)
    (advertised : ∀ m ∈ first :: rest, m.Advertised) :
    ∃ best others, furthest first rest = .ok (best, others) ∧ (best :: others).Perm (first :: rest) ∧
      ∀ m ∈ first :: rest, m.dist ≤ best.dist := by
  induction rest generalizing first with
  | nil => exact ⟨first, [], rfl, .refl _, by simp⟩
  | cons m rest ih =>
      obtain ⟨next, last, same, further, unfolds⟩ := furthest_cons rest (advertised first (by simp))
        (advertised m (by simp))
      have swapped : (last :: next :: rest).Perm (first :: m :: rest) :=
        (List.Perm.swap next last rest).trans (same.append_right rest)
      obtain ⟨best, others, finds, perm, most⟩ := ih next fun m' inside =>
        advertised m' (swapped.subset (List.mem_cons_of_mem _ inside))
      refine ⟨best, last :: others, by rw [unfolds, finds]; rfl, ?_, fun m' inside => ?_⟩
      · exact (List.Perm.swap ..).trans ((perm.cons last).trans swapped)
      · rcases List.mem_cons.mp (swapped.symm.subset inside) with rfl | inside
        · exact BitVec.le_trans further (most next List.mem_cons_self)
        · exact most m' inside

abbrev validOptions (maps : MAPOptions) : MAPOptions := maps.filter (·.Valid)

theorem mapM_isInvalidMAP (advertised : ∀ m ∈ maps, m.Advertised) :
    maps.mapM isInvalidMAP = .ok (maps.map fun m => !decide m.Valid) := by
  induction maps with
  | nil => rfl
  | cons m rest ih =>
      rw [List.forall_mem_cons] at advertised
      have checks : isInvalidMAP m = .ok (!decide m.Valid) := by
        obtain ⟨far, -, pref, addr⟩ := advertised.1
        unfold isInvalidMAP
        rw [assert_pos far, assert_pos addr, assert_pos pref]
        rw [← decide_not]
        exact congrArg Except.ok (decide_eq_decide.mpr (by unfold HMIPv6ICMPv6NDOptMAP.Valid; tauto))
      rw [List.mapM_cons, checks, ih advertised.2]
      rfl

/-- What is selected from an advertisement: a valid option of maximal distance if there is one, and the options with
the valid ones at the front and the rest as it was. -/
structure Selects (maps : MAPOptions) (bestMap : HMIPv6MAPEntry) (stored : MAPOptions) :
    Prop where
  best : validOptions maps ≠ [] → ∃ best ∈ validOptions maps, HMIPv6MAPEntry.ofOption best = .ok bestMap ∧
    ∀ m ∈ validOptions maps, m.dist ≤ best.dist
  none : validOptions maps = [] → bestMap = .invalidMAP
  stored : ∃ front, front.Perm (validOptions maps) ∧ stored = front ++ maps.drop (validOptions maps).length

theorem selectMAP_selects (advertised : ∀ m ∈ maps, m.Advertised) :
    ∃ bestMap stored, selectMAP maps = .ok (bestMap, stored) ∧ Selects maps bestMap stored := by
  have valid : ((maps.zip (maps.map fun m => !decide m.Valid)).filter fun m => !m.2).map Prod.fst =
      validOptions maps := by
    rw [← List.map_prod_left_eq_zip, List.filter_map, List.map_map]
    simp [Function.comp_def, validOptions]
  unfold selectMAP
  rw [mapM_isInvalidMAP advertised, ok_bind]
  simp only [valid]
  cases found : validOptions maps with
  | nil => exact ⟨_, _, rfl, fun some => absurd found some, fun _ => rfl, [], .of_eq found.symm, by rw [found]; rfl⟩
  | cons m others =>
      have inside : ∀ m' ∈ m :: others, m'.Advertised := by
        rw [← found]
        exact fun m' inside => advertised m' (List.mem_filter.mp inside).1
      obtain ⟨best, others', finds, perm, most⟩ := furthest_perm m others inside
      obtain ⟨e, converts, -⟩ := HMIPv6MAPEntry.exists_ofOption (inside best (perm.subset List.mem_cons_self))
      refine ⟨e, best :: others' ++ maps.drop (validOptions maps).length, ?_, fun _ => ?_, fun none => ?_,
        best :: others', ?_, rfl⟩
      · simp only [finds, ok_bind, converts, found]
        rfl
      · rw [found]
        exact ⟨best, perm.subset List.mem_cons_self, converts, most⟩
      · rw [found] at none
        cases none
      · rwa [found]

/-! ### What is stored -/

/-- The option whose entry is stored for an address: the last one with it -/
def lastOf (maps : MAPOptions) (addr : Ipv6Addr) : Option HMIPv6ICMPv6NDOptMAP :=
  maps.reverse.find? (·.map_addr = addr)

theorem lastOf_cons (m : HMIPv6ICMPv6NDOptMAP) (rest : MAPOptions) (addr : Ipv6Addr) :
    lastOf (m :: rest) addr = (lastOf rest addr).or (if m.map_addr = addr then some m else none) := by
  unfold lastOf
  rw [List.reverse_cons, List.find?_append, List.find?_singleton]
  simp only [decide_eq_true_eq]

theorem lastOf_append (front rest : MAPOptions) (addr : Ipv6Addr) :
    lastOf (front ++ rest) addr = (lastOf rest addr).or (lastOf front addr) := by
  unfold lastOf
  rw [List.reverse_append, List.find?_append]

theorem lastOf_mem (last : lastOf maps addr = some m) : m ∈ maps ∧ m.map_addr = addr := by
  unfold lastOf at last
  exact ⟨List.mem_reverse.mp (List.mem_of_find?_eq_some last), by simpa using List.find?_some last⟩

theorem exists_lastOf (inside : addr ∈ maps.map (·.map_addr)) : ∃ m, lastOf maps addr = some m := by
  obtain ⟨m, inside, same⟩ := List.mem_map.mp inside
  exact Option.isSome_iff_exists.mp (List.find?_isSome.mpr ⟨m, List.mem_reverse.mpr inside, decide_eq_true same⟩)

theorem advertised_of_valid (advertised : ∀ m ∈ maps, m.Advertised) (valid : m ∈ validOptions maps) : m.Advertised :=
  advertised m (List.mem_filter.mp valid).1

theorem Selects.advertised (selected : Selects maps bestMap stored) (advertised : ∀ m ∈ maps, m.Advertised) :
    ∀ m ∈ stored, m.Advertised := by
  obtain ⟨front, perm, rfl⟩ := selected.stored
  intro m among
  rcases List.mem_append.mp among with among | among
  · exact advertised_of_valid advertised (perm.subset among)
  · exact advertised m (List.mem_of_mem_drop among)

theorem Selects.among (selected : Selects maps bestMap stored)
    (valid : addr ∈ (validOptions maps).map (·.map_addr)) : addr ∈ stored.map (·.map_addr) := by
  obtain ⟨front, perm, rfl⟩ := selected.stored
  rw [List.map_append]
  exact List.mem_append_left _ ((perm.map _).symm.subset valid)

theorem Selects.last_behind (selected : Selects maps bestMap stored)
    (last : lastOf (maps.drop (validOptions maps).length) addr = some m) : lastOf stored addr = some m := by
  obtain ⟨front, -, rfl⟩ := selected.stored
  rw [lastOf_append, last, Option.some_or]

namespace HMIPv6NDStateHost

variable {h : HMIPv6NDStateHost} {cds : HMIPv6CDSMobileNode} {ra : MapAdvertisement} {curMapFound : Bool}
  {entries : MAPEntries}

theorem storeMaps_returns_iff (advertised : ∀ m ∈ maps, m.Advertised)
    (curMapFound : Bool) (mapOptions : MAPEntries) : (∃ r, storeMaps cds maps curMapFound mapOptions = .ok r) ↔
      (cds.mapAddr ∈ maps.map (·.map_addr) → cds.mapAddr ∈ cds.maps) := by
  induction maps generalizing curMapFound mapOptions with
  | nil => simp [storeMaps]
  | cons m rest ih =>
      rw [List.forall_mem_cons] at advertised
      obtain ⟨e, converts, -⟩ := HMIPv6MAPEntry.exists_ofOption advertised.1
      have ih := ih advertised.2 (curMapFound || decide (m.map_addr = cds.mapAddr)) (mapOptions.insert m.map_addr e)
      have compares : compareDistance cds m = .ok () ↔ (m.map_addr = cds.mapAddr → cds.mapAddr ∈ cds.maps) := by
        unfold compareDistance HMIPv6CDSMobileNode.currentMap
        rw [StdMap.mem_iff_exists]
        by_cases same : m.map_addr = cds.mapAddr
        · cases found : cds.maps[cds.mapAddr]? <;> simp [same]
        · simp [same]
      rw [List.map_cons, List.mem_cons, or_imp, eq_comm (a := cds.mapAddr), ← compares, ← ih]
      rw [storeMaps, converts]
      cases compareDistance cds m with
      | ok value => simp [HostExec.lift]; rfl
      | error fault =>
          constructor
          · rintro ⟨r, stored⟩
            cases stored
          · rintro ⟨compared, -⟩
            cases compared

theorem storeMaps_getElem? (maps : MAPOptions) (curMapFound : Bool) (mapOptions : MAPEntries) (addr : Ipv6Addr) :
    OnReturn (fun r => r.2[addr]? =
        (lastOf maps addr).elim mapOptions[addr]? fun m => (HMIPv6MAPEntry.ofOption m).toOption)
      (storeMaps cds maps curMapFound mapOptions) := by
  induction maps generalizing curMapFound mapOptions with
  | nil => exact Ensures.ok rfl
  | cons m rest ih =>
      refine Ensures.trivial.bind fun _ _ => ?_
      refine Ensures.bind (Ensures.mapError (Ensures.returned fun _ _ => trivial)) fun e converts => ?_
      refine (ih _ _).imp fun r stored => ?_
      rw [stored, lastOf_cons]
      cases lastOf rest addr with
      | some last => rfl
      | none =>
          by_cases same : m.map_addr = addr
          · subst same
            rw [if_pos rfl]
            show _ = (HMIPv6MAPEntry.ofOption m).toOption
            rw [converts]
            exact StdMap.getElem?_insert_self
          · rw [if_neg same]
            exact StdMap.getElem?_insert_ne same

/-! ### The list after a hand-over -/

abbrev KeepsMaps (h : HMIPv6NDStateHost) (r : HostExec HMIPv6NDStateHost) : Prop :=
  OnReturn (fun after => after.cds.maps = h.cds.maps) r

theorem lift_keepsMaps {r : Exec HMIPv6NDStateHost} (keeps : ∀ after, r = .ok after → h.Keeps after) :
    h.KeepsMaps (HostExec.lift r) :=
  Ensures.mapError (Ensures.of_cases (fun after returns => (keeps after returns).maps) fun _ _ => trivial)

theorem arhandover_keepsMaps (lcoa : Ipv6Addr) :
    OnReturn (fun r => r.2.cds.maps = h.cds.maps) (h.arhandover lcoa) := by
  refine Ensures.trivial.bind fun rcoa _ => Ensures.ite (fun _ => rfl) fun _ => ?_
  refine Ensures.trivial.bind fun assigned _ => Ensures.bind (?_ : h.KeepsMaps _) fun _ keeps => keeps
  refine Ensures.ite (fun _ => ?_) fun _ => lift_keepsMaps fun _ adds => addCallbackToAddress_keeps (by simp) adds
  refine Ensures.trivial.bind fun _ _ => Ensures.trivial.bind fun _ _ => Ensures.trivial.bind fun _ _ => ?_
  refine Ensures.ite (fun _ => rfl) fun _ => ?_
  exact Ensures.trivial.bind fun _ _ => Ensures.trivial.bind fun _ _ => rfl

theorem mapHandover_keepsMaps (arg : ArgMapHandover) : h.KeepsMaps (h.mapHandover arg) := by
  have sets : OnReturn (fun cds => cds.maps = h.cds.maps) (h.cds.setCurrentMap arg.bestMap.mapAddr) :=
    Ensures.trivial.bind fun _ _ => rfl
  refine sets.bind fun cds kept => ?_
  refine Ensures.trivial.bind fun _ _ => Ensures.trivial.bind fun _ _ => Ensures.trivial.bind fun tables _ => ?_
  exact (lift_keepsMaps fun _ forwards => forwardFrom_keeps forwards).imp fun _ keeps => keeps.trans kept

theorem chooseHandover_keepsMaps (oldMap : Ipv6Addr) (bestMap : HMIPv6MAPEntry) (curMapFound : Bool)
    (accessRouter : MIPv6RouterEntry) (inputPort : Int) :
    h.KeepsMaps (h.chooseHandover oldMap bestMap curMapFound accessRouter inputPort) := by
  refine Ensures.ite (fun _ => rfl) fun _ => Ensures.ite (fun _ => ?_) fun _ => ?_
  · refine Ensures.trivial.bind fun _ _ => Ensures.trivial.bind fun lcoa _ => ?_
    cases h.waitingHandover lcoa with
    | some potential => exact Ensures.trivial.bind fun _ _ => rfl
    | none =>
        refine Ensures.trivial.bind fun _ _ => Ensures.trivial.bind fun tables _ => ?_
        refine Ensures.trivial.bind fun _ _ => Ensures.trivial.bind fun _ _ => ?_
        refine Ensures.ite (fun _ => mapHandover_keepsMaps _) fun _ => ?_
        refine Ensures.mapError (Ensures.trivial.bind fun _ _ => rfl)
  · refine Ensures.trivial.bind fun lcoa _ => Ensures.trivial.bind fun _ _ => ?_
    exact Ensures.ite (fun _ => rfl) fun _ => Ensures.map (arhandover_keepsMaps lcoa)

theorem discoverMAP_maps (selects : selectMAP ra.mapOptions = .ok (bestMap, stored))
    (stores : storeMaps h.cds stored false ∅ = .ok (curMapFound, entries)) :
    OnReturn (fun after => after.cds.maps = entries) (h.discoverMAP ra) := by
  unfold discoverMAP
  simp only [selects, HostExec.lift, Except.mapError]
  refine Ensures.ok_bind ?_
  simp only [stores]
  refine Ensures.ok_bind ?_
  refine Ensures.trivial.bind fun accessRouter _ => ?_
  refine Ensures.ite (fun _ => chooseHandover_keepsMaps ..) fun _ => Ensures.ite (fun _ => ?_) fun _ => ?_
  · refine Ensures.bind (lift_keepsMaps fun _ returns => (returnHome_keeps returns).1) fun after kept => ?_
    exact (congrArg (·.maps) (relinquishRouter_cds accessRouter ra.relinquished)).trans kept
  · refine (chooseHandover_keepsMaps ..).imp fun after kept => kept.trans ?_
    exact congrArg (·.maps) (relinquishRouter_cds accessRouter ra.relinquished)

/-! ### The valid options -/

/-- The entries are those of the valid options. -/
structure Records (maps : MAPOptions) (entries : MAPEntries) : Prop where
  valid : ∀ (addr : Ipv6Addr) e, entries[addr]? = some e →
    ∃ m ∈ validOptions maps, m.map_addr = addr ∧ HMIPv6MAPEntry.ofOption m = .ok e
  all : ∀ m ∈ validOptions maps, m.map_addr ∈ entries

/-- The best of the valid options is selected, they are what is recorded, and the node hands over to a MAP only. -/
def Discovers (h : HMIPv6NDStateHost) (ra : MapAdvertisement) : Prop :=
  ∃ bestMap stored curMapFound entries, selectMAP ra.mapOptions = .ok (bestMap, stored) ∧
    Selects ra.mapOptions bestMap stored ∧ storeMaps h.cds stored false ∅ = .ok (curMapFound, entries) ∧
    Records ra.mapOptions entries ∧ OnReturn (fun after => after.cds.maps = entries) (h.discoverMAP ra) ∧
    ∀ accessRouter ∈ h.tables.findRouter ra.srcAddress, h.HandsOver bestMap accessRouter →
      bestMap.mapAddr ≠ .unspecified

/-- Behind as many places as there are valid options, the last option with each address is valid. -/
def EndsValid (maps : MAPOptions) : Prop :=
  ∀ addr, ∀ m ∈ lastOf (maps.drop (validOptions maps).length) addr, m.Valid

theorem EndsValid.valid (ends : EndsValid maps) (selected : Selects maps bestMap stored)
    (last : lastOf stored addr = some m) : m ∈ validOptions maps := by
  cases behind : lastOf (maps.drop (validOptions maps).length) addr with
  | some other =>
      cases (selected.last_behind behind).symm.trans last
      exact List.mem_filter.mpr ⟨List.mem_of_mem_drop (lastOf_mem behind).1, decide_eq_true (ends addr _ behind)⟩
  | none =>
      obtain ⟨front, perm, rfl⟩ := selected.stored
      rw [lastOf_append, behind] at last
      exact perm.subset (lastOf_mem last).1

theorem EndsValid.validOptions_ne_nil (ends : EndsValid maps) (offers : maps ≠ []) : validOptions maps ≠ [] := by
  intro none
  obtain ⟨m, inside⟩ := List.exists_mem_of_ne_nil maps offers
  obtain ⟨last, found⟩ := exists_lastOf (List.mem_map_of_mem (f := (·.map_addr)) inside)
  have valid := ends m.map_addr last (by rw [none]; exact found)
  have among : last ∈ validOptions maps := List.mem_filter.mpr ⟨(lastOf_mem found).1, decide_eq_true valid⟩
  rw [none] at among
  cases among

/-- The last option with an address behind the valid ones is recorded, so that it has to be valid. -/
theorem Discovers.ends (discovers : h.Discovers ra) (advertised : ∀ m ∈ ra.mapOptions, m.Advertised) :
    EndsValid ra.mapOptions ∧
      (h.cds.mapAddr ∈ (validOptions ra.mapOptions).map (·.map_addr) → h.cds.mapAddr ∈ h.cds.maps) := by
  obtain ⟨_, _, _, entries, -, selected, stores, records, -⟩ := discovers
  refine ⟨fun addr m last => ?_, fun valid => ?_⟩
  · have entry := (storeMaps_getElem? _ _ _ addr).of_ok stores
    have ok := advertised m (List.mem_of_mem_drop (lastOf_mem last).1)
    obtain ⟨e, converts, -⟩ := HMIPv6MAPEntry.exists_ofOption ok
    rw [selected.last_behind last, Option.elim_some, converts] at entry
    obtain ⟨other, valid, -, converts'⟩ := records.valid addr e entry
    exact HMIPv6MAPEntry.valid_of_ofOption ok (advertised_of_valid advertised valid) converts converts'
      (of_decide_eq_true (List.mem_filter.mp valid).2)
  · exact (storeMaps_returns_iff (selected.advertised advertised) _ _).mp ⟨_, stores⟩ (selected.among valid)

theorem EndsValid.records (ends : EndsValid maps) (selected : Selects maps bestMap stored) (advertised : ∀ m ∈ maps, m.Advertised)
    (stores : storeMaps cds stored false ∅ = .ok (curMapFound, entries)) : Records maps entries := by
  have entry (addr : Ipv6Addr) := (storeMaps_getElem? _ _ _ addr).of_ok stores
  constructor
  · intro addr e found
    rw [entry] at found
    cases last : lastOf stored addr with
    | none =>
        rw [last] at found
        simp at found
    | some m =>
        rw [last, Option.elim_some] at found
        refine ⟨m, ends.valid selected last, (lastOf_mem last).2, ?_⟩
        cases converts : HMIPv6MAPEntry.ofOption m with
        | ok e' =>
            rw [converts] at found
            cases found
            rfl
        | error fault =>
            rw [converts] at found
            cases found
  · intro m inside
    obtain ⟨last, found⟩ := exists_lastOf (selected.among (List.mem_map_of_mem inside))
    obtain ⟨e, converts, -⟩ :=
      HMIPv6MAPEntry.exists_ofOption (advertised_of_valid advertised (ends.valid selected found))
    refine StdMap.mem_iff_exists.mpr ⟨e, ?_⟩
    rw [entry, found, Option.elim_some, converts]
    rfl

theorem EndsValid.discovers (ends : EndsValid ra.mapOptions) (offers : ra.mapOptions ≠ [])
    (advertised : ∀ m ∈ ra.mapOptions, m.Advertised)
    (current : h.cds.mapAddr ∈ (validOptions ra.mapOptions).map (·.map_addr) → h.cds.mapAddr ∈ h.cds.maps) :
    h.Discovers ra := by
  obtain ⟨bestMap, stored, selects, selected⟩ := selectMAP_selects advertised
  have listed : h.cds.mapAddr ∈ stored.map (·.map_addr) → h.cds.mapAddr ∈ h.cds.maps := by
    intro among
    obtain ⟨m, last⟩ := exists_lastOf among
    exact current (List.mem_map.mpr ⟨m, ends.valid selected last, (lastOf_mem last).2⟩)
  obtain ⟨⟨curMapFound, entries⟩, stores⟩ :=
    (storeMaps_returns_iff (selected.advertised advertised) false ∅).mpr listed
  refine ⟨bestMap, stored, curMapFound, entries, selects, selected, stores,
    ends.records selected advertised stores, discoverMAP_maps selects stores, fun _ _ _ => ?_⟩
  obtain ⟨best, valid, converts, -⟩ := selected.best (ends.validOptions_ne_nil offers)
  rw [HMIPv6MAPEntry.ofOption_mapAddr converts]
  exact (advertised_of_valid advertised valid).2.2.2

end HMIPv6NDStateHost

open HMIPv6NDStateHost

/-- The valid options are what is recorded, and a MAP is what the node hands over to, exactly if behind as many places
as there are valid options the last option with each address is valid, and the current MAP is still in the list if it
is a valid option. -/
theorem discoverMAP_iff {h : HMIPv6NDStateHost} {ra : MapAdvertisement} (offers : ra.mapOptions ≠ [])
    (advertised : ∀ m ∈ ra.mapOptions, m.Advertised) :
    h.Discovers ra ↔ EndsValid ra.mapOptions ∧
      (h.cds.mapAddr ∈ (validOptions ra.mapOptions).map (·.map_addr) → h.cds.mapAddr ∈ h.cds.maps) :=
  ⟨fun discovers => discovers.ends advertised, fun ⟨ends, current⟩ => ends.discovers offers advertised current⟩

/-- An advertisement of the first router with a MAP for each lifetime -/
def exampleMaps (lifetimes : List (BitVec 32)) : MapAdvertisement :=
  ⟨⟨0xFE800000, 0, 0, 1⟩, 0, lifetimes.mapIdx fun i expires =>
    ⟨1, 9, false, expires, 0, ⟨0x20020000, BitVec.ofNat 32 i, 0, 1⟩⟩, []⟩

/-- An invalid option first -/
theorem discoverMAP_behind : (start exampleVisitor).Discovers (exampleMaps [0, 1000]) := by
  refine (discoverMAP_iff (by decide) (by decide)).mpr ⟨fun addr m last => ?_, by decide +kernel⟩
  cases List.mem_singleton.mp (lastOf_mem last).1
  decide

/-- An invalid option behind a valid one is recorded. Without a valid one, the assertion about the address of the MAP
fails. -/
theorem discoverMAP_fails :
    ¬ (start exampleVisitor).Discovers (exampleMaps [1000, 0]) ∧
      ((start exampleVisitor).discoverMAP (exampleMaps [1000, 0])).map
        (fun after => decide (⟨0x20020000, 1, 0, 1⟩ ∈ after.cds.maps)) = .ok true ∧
      ((start exampleVisitor).discoverMAP (exampleMaps [0])).map (fun _ => ()) = .error (.other .assertFailed) := by
  refine ⟨fun discovers => ?_, by decide +kernel, by decide +kernel⟩
  exact absurd ((discovers.ends (by decide)).1 ⟨0x20020000, 1, 0, 1⟩ _ rfl) (by decide)

end IPv6Suite
